import Opentrons.DiscoveryClient.Reducer

/-!
# Deep equality is a congruence of the reducer

The store objects keep their keys in insertion order, so two states that
lodash `isEqual` finds deep-equal may list their keys in different orders.
Every slice reducer reads its state only through lookups, key membership and
the number of keys a filter selects, and these do not see the order. Hence
deep-equal states reduce to deep-equal states under every action and along
every run, and a dispatch keeps the state object for one of them exactly when
it keeps it for the other: key order reaches neither the store's content nor
the change detection built on it.
-/

namespace Opentrons.DiscoveryClient

set_option autoImplicit false

theorem State.IsEqual.refl (state : State) : State.IsEqual state state := ⟨rfl, rfl, rfl⟩

theorem State.IsEqual.trans {first second third : State} (left : State.IsEqual first second)
    (right : State.IsEqual second third) : State.IsEqual first third :=
  ⟨left.1.trans right.1, left.2.1.trans right.2.1, left.2.2.trans right.2.2⟩

/-! ## One slice at a time -/

theorem robots_congr {robots robots' : ObjectMap RobotState} (same : robots.get = robots'.get)
    (action : Action) :
    ((robotsByNameReducer robots action).value robots).get =
        ((robotsByNameReducer robots' action).value robots').get ∧
      (robotsByNameReducer robots action = .same ↔ robotsByNameReducer robots' action = .same) := by
  have same' := congrFun same
  cases action with
  | initializeState initialRobots _ => cases initialRobots <;> simp [robotsByNameReducer, same]
  | removeRobot name =>
      refine ⟨funext fun target => by rw [robots_removeRobot, robots_removeRobot, same], ?_⟩
      simp [robotsByNameReducer, ObjectMap.hasProperty_eq_of_get_eq same]
  | serviceFound ip port name =>
      refine ⟨funext fun target => by rw [robots_serviceFound, robots_serviceFound, same], ?_⟩
      simp [robotsByNameReducer, ObjectMap.read_eq_of_get_eq same]
  | healthPolled result =>
      refine ⟨funext fun target => by rw [robots_healthPolled, robots_healthPolled, same], ?_⟩
      cases named : result.robotName <;> simp [robotsByNameReducer, named, same']

theorem hosts_congr {hosts hosts' : ObjectMap HostState} (same : hosts.get = hosts'.get)
    (action : Action) :
    ((hostsByIpReducer hosts action).value hosts).get =
        ((hostsByIpReducer hosts' action).value hosts').get ∧
      (hostsByIpReducer hosts action = .same ↔ hostsByIpReducer hosts' action = .same) := by
  have same' := congrFun same
  cases action with
  | initializeState initialRobots _ => cases initialRobots <;> simp [hostsByIpReducer, same]
  | removeRobot name =>
      have removals := ObjectMap.keysWhere_perm_of_get_eq same
        fun _ target => decide (target.robotName = some name)
      simp only [hostsByIpReducer, removals.length_eq]
      split
      · exact ⟨funext fun key => by simp [removals.mem_iff, same'], by simp⟩
      · exact ⟨same, Iff.rfl⟩
  | serviceFound ip port name =>
      refine ⟨funext fun key => by simp [hosts_serviceFound, same'], ?_⟩
      simp [hostsByIpReducer, same']
  | healthPolled result =>
      have removals : ∀ robotName, (healthPolledRemovals hosts result robotName).Perm
          (healthPolledRemovals hosts' result robotName) := by
        intro robotName
        unfold healthPolledRemovals
        split
        · exact ObjectMap.keysWhere_perm_of_get_eq same _
        · rfl
      have member := fun robotName key => (removals robotName).mem_iff (a := key)
      refine ⟨funext fun key => by simp [hosts_healthPolled, member, same'], ?_⟩
      simp [hostsByIpReducer, (removals _).length_eq, same']

/-! ## Whole states and runs -/

theorem isEqual_reduce {state state' : State} (equal : State.IsEqual state state')
    (action : Action) :
    State.IsEqual (reduce state action) (reduce state' action) ∧
      (reducer state action = .same ↔ reducer state' action = .same) := by
  obtain ⟨robots, hosts, manual⟩ := equal
  have robotsStep := robots_congr robots action
  have hostsStep := hosts_congr hosts action
  refine ⟨⟨?_, ?_, ?_⟩, ?_⟩
  · rw [reduce_robotsByName, reduce_robotsByName, robotsStep.1]
  · rw [reduce_hostsByIp, reduce_hostsByIp, hostsStep.1]
  · rw [reduce_manualAddresses, reduce_manualAddresses, manual]
  · rw [reducer_eq_same_iff, reducer_eq_same_iff, robotsStep.2, hostsStep.2, manual]

theorem isEqual_run {state state' : State} (equal : State.IsEqual state state')
    (actions : List Action) : State.IsEqual (run state actions) (run state' actions) := by
  induction actions generalizing state state' with
  | nil => exact equal
  | cons action rest ih => exact ih (isEqual_reduce equal action).1

end Opentrons.DiscoveryClient
