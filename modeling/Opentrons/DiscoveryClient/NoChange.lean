import Opentrons.DiscoveryClient.Reducer

/-!
# Reference stability of the reducer

The discovery client restarts its poller and notifies its consumer when the
selected lists change by reference, so the reducer must hand back the state
object itself whenever an update changes nothing. For SERVICE_FOUND,
HEALTH_POLLED and REMOVE_ROBOT every slice reducer builds a new object only
when some lookup really changes, and a repeated action always finds its work
done, the stale-host eviction of a good poll included. The exception is
REMOVE_ROBOT of a name that `Object.prototype` has, such as `constructor`:
`name in state` holds of it on every object, so the robot slice returns
`omit(state, name)`, a new object, at every such dispatch.
-/

namespace Opentrons.DiscoveryClient

set_option autoImplicit false

/-! ## A new slice object always differs somewhere -/

def Action.removesPrototypeName : Action → Bool
  | .removeRobot name => decide (name ∈ objectPrototypeProperties)
  | _ => false

theorem hasProperty_removeRobot {robots : ObjectMap RobotState} {name : String}
    (ordinary : (Action.removeRobot name).removesPrototypeName = false) :
    robots.hasProperty name ↔ name ∈ robots.keys := by
  have ordinaryName : name ∉ objectPrototypeProperties := by
    simpa [Action.removesPrototypeName] using ordinary
  simp [ObjectMap.hasProperty_iff, ordinaryName]

theorem robots_same_of_unchanged (robots : ObjectMap RobotState) (action : Action)
    (update : action.isUpdate) (ordinary : action.removesPrototypeName = false)
    (unchanged : ((robotsByNameReducer robots action).value robots).get = robots.get) :
    robotsByNameReducer robots action = .same := by
  cases action with
  | initializeState => simp [Action.isUpdate] at update
  | removeRobot name =>
      have atName := congrFun unchanged name
      rw [robots_removeRobot] at atName
      have absent : name ∉ robots.keys := (robots.get_eq_none_iff name).1 (by simpa using atName.symm)
      simp [robotsByNameReducer, (hasProperty_removeRobot ordinary).not.2 absent]
  | serviceFound ip port name =>
      have atName := congrFun unchanged name
      rw [robots_serviceFound] at atName
      cases found : robots.get name <;>
        simp_all [robotsByNameReducer, ObjectMap.read, Property.isNullish]
  | healthPolled result =>
      cases named : result.robotName with
      | none => simp [robotsByNameReducer, named]
      | some name =>
          have atName := congrFun unchanged name
          rw [robots_healthPolled, named, if_pos rfl] at atName
          simp only [robotsByNameReducer, named, ObjectMap.ownValue_read, ObjectMap.read_eq_own_iff]
          rw [if_pos atName.symm]

theorem hosts_same_of_unchanged (hosts : ObjectMap HostState) (action : Action)
    (update : action.isUpdate)
    (unchanged : ((hostsByIpReducer hosts action).value hosts).get = hosts.get) :
    hostsByIpReducer hosts action = .same := by
  cases action with
  | initializeState => simp [Action.isUpdate] at update
  | removeRobot name =>
      simp only [hostsByIpReducer]
      split
      · next several =>
        obtain ⟨ip, removed⟩ := List.exists_mem_of_length_pos (Nat.lt_of_succ_lt several)
        obtain ⟨host, found, -⟩ := (hosts.mem_keysWhere _ ip).1 removed
        have atIp := congrFun unchanged ip
        simp only [hostsByIpReducer] at atIp
        rw [if_pos several] at atIp
        simp [removed, found] at atIp
      · rfl
  | serviceFound ip port name =>
      have atIp := congrFun unchanged ip
      rw [hosts_serviceFound, ObjectMap.get_set, if_pos rfl] at atIp
      simp only [hostsByIpReducer]
      rw [if_pos atIp.symm]
  | healthPolled result =>
      rw [hosts_healthPolled] at unchanged
      simp only [hostsByIpReducer]
      split
      · rfl
      · next changed =>
        refine absurd ⟨?_, List.length_eq_zero.2 (List.eq_nil_iff_forall_not_mem.2 fun ip removed => ?_)⟩
          changed
        · simpa using (congrFun unchanged result.ip).symm
        · obtain ⟨-, host, found, away, -⟩ := (mem_healthPolledRemovals _ _ _ ip).1 removed
          have atIp := congrFun unchanged ip
          simp [away, removed, found] at atIp

theorem manualAddresses_same (addresses : List Address) (action : Action)
    (update : action.isUpdate) : manualAddressesReducer addresses action = .same := by
  cases action <;> simp_all [Action.isUpdate, manualAddressesReducer]

/-! ## A repeated action finds its work done -/

theorem healthPolledRobotState_again (robot : Option RobotState) (name : String)
    (result : HealthPollerResult) :
    healthPolledRobotState (some (healthPolledRobotState robot name result)) name result =
      healthPolledRobotState robot name result := by
  simp only [healthPolledRobotState, Option.some_bind]
  cases result.health <;> cases result.serverHealth <;> rfl

theorem serviceFoundHostState_again (host : Option HostState) (ip : String) (port : Nat)
    (name : String) :
    serviceFoundHostState (some (serviceFoundHostState host ip port name)) ip port name =
      serviceFoundHostState host ip port name := by
  simp [serviceFoundHostState]

theorem healthPolledHostState_again (host : Option HostState) (result : HealthPollerResult) :
    healthPolledHostState (some (healthPolledHostState host result)) result =
      healthPolledHostState host result := by
  simp only [healthPolledHostState, Option.map_some', Option.getD_some, Option.some_bind,
    HostState.mk.injEq, true_and, and_true]
  constructor
  · cases result.robotName <;> rfl
  · generalize (getHealthStatus result.health result.healthError != .unreachable) = answered
    generalize (getHealthStatus result.serverHealth result.serverHealthError != .unreachable) =
      serverAnswered
    cases (host.map HostState.seen).getD false <;> cases answered <;> cases serverAnswered <;> rfl

theorem robots_same_again (robots : ObjectMap RobotState) (action : Action)
    (update : action.isUpdate) (ordinary : action.removesPrototypeName = false) :
    robotsByNameReducer ((robotsByNameReducer robots action).value robots) action = .same := by
  cases action with
  | initializeState => simp [Action.isUpdate] at update
  | removeRobot name =>
      have absent := robots_removeRobot robots name name
      rw [if_pos rfl, ObjectMap.get_eq_none_iff] at absent
      generalize (robotsByNameReducer robots _).value robots = after at absent ⊢
      simp [robotsByNameReducer, (hasProperty_removeRobot ordinary).not.2 absent]
  | serviceFound ip port name =>
      have present := robots_serviceFound robots ip port name name
      generalize (robotsByNameReducer robots _).value robots = after at present ⊢
      have found : ¬(after.read name).isNullish := fun nullish => by
        obtain ⟨missing, ordinaryName⟩ := (after.isNullish_read name).1 nullish
        simp [missing, ordinaryName] at present
      simp [robotsByNameReducer, found]
  | healthPolled result =>
      cases named : result.robotName with
      | none => simp [robotsByNameReducer, named]
      | some name =>
          have present := robots_healthPolled robots result name
          rw [named, if_pos rfl] at present
          generalize (robotsByNameReducer robots _).value robots = after at present ⊢
          simp [robotsByNameReducer, named, present, healthPolledRobotState_again]

theorem hosts_same_again (hosts : ObjectMap HostState) (action : Action)
    (update : action.isUpdate) :
    hostsByIpReducer ((hostsByIpReducer hosts action).value hosts) action = .same := by
  cases action with
  | initializeState => simp [Action.isUpdate] at update
  | removeRobot name =>
      simp only [hostsByIpReducer]
      split
      · simp [ObjectMap.keysWhere_omit_self]
      · next few => simp [few]
  | serviceFound ip port name =>
      rw [hosts_serviceFound]
      simp [hostsByIpReducer, serviceFoundHostState_again]
  | healthPolled result =>
      rw [hosts_healthPolled]
      have done : healthPolledRemovals ((hosts.«omit» (healthPolledRemovals hosts result
          (healthPolledHostState (hosts.get result.ip) result).robotName)).set result.ip
            (healthPolledHostState (hosts.get result.ip) result)) result
          (healthPolledHostState (hosts.get result.ip) result).robotName = [] := by
        unfold healthPolledRemovals
        split
        · exact ObjectMap.keysWhere_set_omit_self _ _ (by simp [isStaleHost])
        · rfl
      simp [hostsByIpReducer, healthPolledHostState_again, done]

/-- Reference stability of the combined reducer for the three update actions,
REMOVE_ROBOT of a name of `Object.prototype` apart: no change means the same
state object, and a repeated action changes nothing. -/
theorem reducer_reference_stable (state : State) (action : Action) (update : action.isUpdate)
    (ordinary : action.removesPrototypeName = false) :
    (State.IsEqual (reduce state action) state → reducer state action = .same) ∧
      reducer (reduce state action) action = .same := by
  refine ⟨fun ⟨robots, hosts, _⟩ => ?_, ?_⟩
  · rw [reduce_robotsByName] at robots
    rw [reduce_hostsByIp] at hosts
    exact (reducer_eq_same_iff _ _).2 ⟨robots_same_of_unchanged _ _ update ordinary robots,
      hosts_same_of_unchanged _ _ update hosts, manualAddresses_same _ _ update⟩
  · rw [reducer_eq_same_iff, reduce_robotsByName, reduce_hostsByIp, reduce_manualAddresses]
    exact ⟨robots_same_again _ _ update ordinary, hosts_same_again _ _ update,
      manualAddresses_same _ _ update⟩

theorem reducer_reference_stable_on_repeated_good_poll :
    (Action.healthPolled ⟨"10.0.0.1", 31950, some ⟨"bot-1", ∅⟩, some ⟨"bot-1", ∅⟩, none,
        none⟩).isUpdate ∧
      (Action.healthPolled ⟨"10.0.0.1", 31950, some ⟨"bot-1", ∅⟩, some ⟨"bot-1", ∅⟩, none,
        none⟩).removesPrototypeName = false ∧
      (reduce (run initialState [.initializeState (some [⟨"bot-1", none, none, ∅,
          [⟨"10.0.0.1", 31950⟩, ⟨"10.0.0.2", 31950⟩]⟩]) none,
        .healthPolled ⟨"10.0.0.2", 31950, none, none, none, none⟩])
        (.healthPolled ⟨"10.0.0.1", 31950, some ⟨"bot-1", ∅⟩, some ⟨"bot-1", ∅⟩, none,
          none⟩)).hostsByIp.get "10.0.0.2" = none ∧
      reducer (reduce (run initialState [.initializeState (some [⟨"bot-1", none, none, ∅,
          [⟨"10.0.0.1", 31950⟩, ⟨"10.0.0.2", 31950⟩]⟩]) none,
        .healthPolled ⟨"10.0.0.2", 31950, none, none, none, none⟩])
        (.healthPolled ⟨"10.0.0.1", 31950, some ⟨"bot-1", ∅⟩, some ⟨"bot-1", ∅⟩, none, none⟩))
        (.healthPolled ⟨"10.0.0.1", 31950, some ⟨"bot-1", ∅⟩, some ⟨"bot-1", ∅⟩, none, none⟩) =
        .same :=
  ⟨rfl, rfl, by decide, (reducer_reference_stable _ _ (by rfl) (by rfl)).2⟩

theorem reducer_removeRobot_ne_same_of_inherited (state : State) {name : String}
    (inherited : name ∈ objectPrototypeProperties) :
    reducer state (.removeRobot name) ≠ .same := by
  rw [Ne, reducer_eq_same_iff]
  simp [robotsByNameReducer, ObjectMap.hasProperty_iff, inherited]

/-- From `INITIAL_STATE`, removing a robot named `constructor` builds a new
state object deep-equal to the old one, and does so again at the next such
dispatch. -/
theorem removeRobot_constructor_allocates_every_time :
    State.IsEqual (reduce initialState (.removeRobot "constructor")) initialState ∧
      reducer initialState (.removeRobot "constructor") ≠ .same ∧
      reducer (reduce initialState (.removeRobot "constructor")) (.removeRobot "constructor") ≠
        .same :=
  ⟨⟨funext fun key => by simp [reduce_robotsByName, robots_removeRobot, initialState],
      by simp [reduce_hostsByIp, hostsByIpReducer, ObjectMap.keysWhere, initialState,
        ObjectMap.empty],
      by simp [reduce_manualAddresses, manualAddressesReducer]⟩,
    reducer_removeRobot_ne_same_of_inherited _ (by decide),
    reducer_removeRobot_ne_same_of_inherited _ (by decide)⟩

end Opentrons.DiscoveryClient
