import Opentrons.DiscoveryClient.Reducer

/-!
# What one action changes

Apart from reseeding, an action writes the host at its own ip and deletes
exactly the hosts it evicts: the stale siblings of a good poll, or all hosts
of a removed robot when there are two or more; every other host is left as it
was. Likewise it touches the robot entry of the one name it carries only.
Reseeding replaces both maps by the seeded robots and addresses. Without
REMOVE_ROBOT and reseeding, what was learnt stays learnt: a seen host stays
stored and seen, and a robot's health payloads, once known, stay known.
-/

namespace Opentrons.DiscoveryClient

set_option autoImplicit false

def Action.seedsRobots : Action → Bool
  | .initializeState (some _) _ => true
  | _ => false

def Action.writtenIp : Action → Option String
  | .serviceFound ip _ _ => some ip
  | .healthPolled result => some result.ip
  | _ => none

/-- The hosts an action deletes, as the spec describes them: after a poll
answered on both endpoints, every other never-seen host of the robot the poll
resolves to whose endpoints were both unreachable; on REMOVE_ROBOT, every host
of the robot when there are at least two. -/
def Evicted (hosts : ObjectMap HostState) : Action → String → Prop
  | .healthPolled result, ip =>
      getHealthStatus result.health result.healthError = .ok ∧
        getHealthStatus result.serverHealth result.serverHealthError = .ok ∧ ip ≠ result.ip ∧
        ∃ host, hosts.get ip = some host ∧
          host.robotName = result.robotName.or ((hosts.get result.ip).bind HostState.robotName) ∧
          host.seen = false ∧ host.healthStatus = some .unreachable ∧
          host.serverHealthStatus = some .unreachable
  | .removeRobot name, ip =>
      2 ≤ (hosts.keys.filter fun key => (hosts.get key).bind HostState.robotName = some name).length ∧
        (hosts.get ip).bind HostState.robotName = some name
  | _, _ => False

theorem mem_healthPolledRemovals_iff_evicted (hosts : ObjectMap HostState)
    (result : HealthPollerResult) (ip : String) :
    ip ∈ healthPolledRemovals hosts result
        (healthPolledHostState (hosts.get result.ip) result).robotName ↔
      Evicted hosts (.healthPolled result) ip := by
  rw [mem_healthPolledRemovals]
  simp only [Evicted, HealthPollerResult.ipIsGood, Bool.and_eq_true, beq_iff_eq,
    healthPolledHostState]
  constructor
  · rintro ⟨⟨good, serverGood⟩, host, found, rest⟩
    exact ⟨good, serverGood, rest.1, host, found, rest.2⟩
  · rintro ⟨good, serverGood, away, host, found, rest⟩
    exact ⟨⟨good, serverGood⟩, host, found, away, rest⟩

theorem removeRobot_removals (hosts : ObjectMap HostState) (name : String) :
    (hosts.keysWhere fun _ target => decide (target.robotName = some name)) =
      hosts.keys.filter fun key => (hosts.get key).bind HostState.robotName = some name := by
  rw [ObjectMap.keysWhere_eq_filter]
  refine List.filter_congr fun key _ => ?_
  cases hosts.get key <;> simp

theorem get_hosts_unwritten {state : State} {action : Action} {ip : String}
    (notSeeding : action.seedsRobots = false) (kept : ¬Evicted state.hostsByIp action ip)
    (unwritten : action.writtenIp ≠ some ip) :
    (reduce state action).hostsByIp.get ip = state.hostsByIp.get ip := by
  rw [reduce_hostsByIp]
  cases action with
  | initializeState initialRobots _ =>
      cases initialRobots with
      | none => rfl
      | some _ => simp [Action.seedsRobots] at notSeeding
  | removeRobot name =>
      simp only [hostsByIpReducer]
      split
      · next several =>
        rw [Reduced.value_fresh, ObjectMap.get_omit, removeRobot_removals]
        rw [removeRobot_removals] at several
        have notCarried : ¬(state.hostsByIp.get ip).bind HostState.robotName = some name :=
          fun carried => kept ⟨several, carried⟩
        simp [notCarried]
      · rfl
  | serviceFound written port name =>
      have away : ip ≠ written := fun same => unwritten (by rw [same]; rfl)
      rw [hosts_serviceFound, ObjectMap.get_set, if_neg away]
  | healthPolled result =>
      have away : ip ≠ result.ip := fun same => unwritten (by rw [same]; rfl)
      rw [hosts_healthPolled, ObjectMap.get_set, if_neg away, ObjectMap.get_omit,
        if_neg (by rwa [mem_healthPolledRemovals_iff_evicted])]

theorem get_hosts_evicted {state : State} {action : Action} {ip : String}
    (evicted : Evicted state.hostsByIp action ip) : (reduce state action).hostsByIp.get ip = none := by
  rw [reduce_hostsByIp]
  cases action with
  | removeRobot name =>
      have several : (state.hostsByIp.keysWhere fun _ target =>
          decide (target.robotName = some name)).length > 1 := by
        rw [removeRobot_removals]
        exact evicted.1
      simp only [hostsByIpReducer]
      rw [if_pos several, Reduced.value_fresh, ObjectMap.get_omit, if_pos]
      rw [removeRobot_removals, List.mem_filter, ObjectMap.mem_keys_iff_isSome]
      obtain ⟨host, found, named⟩ := Option.bind_eq_some.1 evicted.2
      simp [found, named]
  | healthPolled result =>
      rw [hosts_healthPolled, ObjectMap.get_set, if_neg evicted.2.2.1, ObjectMap.get_omit,
        if_pos ((mem_healthPolledRemovals_iff_evicted _ _ _).2 evicted)]
  | initializeState => exact evicted.elim
  | serviceFound => exact evicted.elim

theorem get_hosts_written {state : State} {action : Action} {ip : String}
    (written : action.writtenIp = some ip) : ((reduce state action).hostsByIp.get ip).isSome := by
  rw [reduce_hostsByIp]
  cases action with
  | serviceFound written port name =>
      cases written
      simp [hosts_serviceFound]
  | healthPolled result =>
      cases written
      simp [hosts_healthPolled]
  | initializeState => cases written
  | removeRobot => cases written

/-- The frame of an action on the host map: the key set loses exactly the
evicted ips and gains the written one, and every other host is untouched. -/
theorem hostsByIp_frame (state : State) (action : Action) (notSeeding : action.seedsRobots = false)
    (ip : String) :
    (ip ∈ (reduce state action).hostsByIp.keys ↔
        ip ∈ state.hostsByIp.keys ∧ ¬Evicted state.hostsByIp action ip ∨
          action.writtenIp = some ip) ∧
      (¬Evicted state.hostsByIp action ip → action.writtenIp ≠ some ip →
        (reduce state action).hostsByIp.get ip = state.hostsByIp.get ip) := by
  refine ⟨?_, get_hosts_unwritten notSeeding⟩
  simp only [ObjectMap.mem_keys_iff_isSome]
  by_cases written : action.writtenIp = some ip
  · simp [written, get_hosts_written written]
  · by_cases evicted : Evicted state.hostsByIp action ip
    · simp [written, evicted, get_hosts_evicted evicted]
    · simp [written, evicted, get_hosts_unwritten notSeeding evicted written]

theorem hostsByIp_frame_on_good_poll :
    "10.0.0.2" ∈ (run initialState [.initializeState (some [⟨"bot-1", none, none, ∅,
        [⟨"10.0.0.1", 31950⟩, ⟨"10.0.0.2", 31950⟩]⟩]) none,
      .healthPolled ⟨"10.0.0.2", 31950, none, none, none, none⟩]).hostsByIp.keys ∧
    "10.0.0.2" ∉ (reduce (run initialState [.initializeState (some [⟨"bot-1", none, none, ∅,
        [⟨"10.0.0.1", 31950⟩, ⟨"10.0.0.2", 31950⟩]⟩]) none,
      .healthPolled ⟨"10.0.0.2", 31950, none, none, none, none⟩])
      (.healthPolled ⟨"10.0.0.1", 31950, some ⟨"bot-1", ∅⟩, some ⟨"bot-1", ∅⟩, none,
        none⟩)).hostsByIp.keys := by
  refine ⟨by decide, fun member => ?_⟩
  rcases (hostsByIp_frame _ _ (by rfl) _).1.1 member with ⟨-, kept⟩ | written
  · exact kept ⟨rfl, rfl, by decide,
      ⟨"10.0.0.2", 31950, some "bot-1", false, some .unreachable, some .unreachable, none, none⟩,
      by decide, rfl, rfl, rfl, rfl⟩
  · exact absurd written (by decide)

/-- After a poll answered on both endpoints no host other than the polled one
is left never seen, unreachable on both endpoints and attributed to the polled
robot: the poll evicts every such host at once. -/
theorem good_poll_clears_stale_hosts (state : State) (result : HealthPollerResult)
    (good : result.ipIsGood) (ip : String) (host : HostState)
    (found : (reduce state (.healthPolled result)).hostsByIp.get ip = some host) :
    isStaleHost result.ip result.robotName ip host = false := by
  by_cases hit : ip = result.ip
  · simp [isStaleHost, hit]
  · have unwritten : Action.writtenIp (.healthPolled result) ≠ some ip :=
      fun same => hit (Option.some.inj same).symm
    by_cases evicted : Evicted state.hostsByIp (.healthPolled result) ip
    · simp [get_hosts_evicted evicted] at found
    · rw [get_hosts_unwritten (rfl : Action.seedsRobots (.healthPolled result) = false) evicted
        unwritten] at found
      rw [← mem_healthPolledRemovals_iff_evicted, mem_healthPolledRemovals,
        healthPolledHostState_robotName_of_ipIsGood good] at evicted
      simp only [isStaleHost, decide_eq_false_iff_not]
      exact fun stale => evicted ⟨good, host, found, stale⟩

theorem good_poll_clears_stale_hosts_after_late_result :
    (reduce (run initialState [.initializeState (some [⟨"bot-1", none, none, ∅,
        [⟨"10.0.0.1", 31950⟩, ⟨"10.0.0.2", 31950⟩]⟩]) none,
      .healthPolled ⟨"10.0.0.2", 31950, none, none, none, none⟩])
      (.healthPolled ⟨"10.0.0.1", 31950, some ⟨"bot-1", ∅⟩, some ⟨"bot-1", ∅⟩, none,
        none⟩)).hostsByIp.get "10.0.0.2" = none ∧
    isStaleHost "10.0.0.1" (some "bot-1") "10.0.0.1"
      ⟨"10.0.0.1", 31950, some "bot-1", true, some .ok, some .ok, none, none⟩ = false :=
  ⟨by decide, good_poll_clears_stale_hosts (run initialState [.initializeState
      (some [⟨"bot-1", none, none, ∅, [⟨"10.0.0.1", 31950⟩, ⟨"10.0.0.2", 31950⟩]⟩]) none,
      .healthPolled ⟨"10.0.0.2", 31950, none, none, none, none⟩])
    ⟨"10.0.0.1", 31950, some ⟨"bot-1", ∅⟩, some ⟨"bot-1", ∅⟩, none, none⟩ (by decide) _ _
    (by decide)⟩

/-! ## What one action changes in the robot map -/

def Action.writtenName : Action → Option String
  | .removeRobot name => some name
  | .serviceFound _ _ name => some name
  | .healthPolled result => result.robotName
  | .initializeState _ _ => none

/-- SERVICE_FOUND of a name that `Object.prototype` lacks, or a HEALTH_POLLED
result naming the robot: the actions that make `name` a key of
`robotsByName`. -/
def Action.addsRobot (name : String) : Action → Bool
  | .serviceFound _ _ announced => decide (announced = name ∧ name ∉ objectPrototypeProperties)
  | .healthPolled result => result.robotName == some name
  | _ => false

theorem mem_robots_reduce_iff {state : State} {action : Action}
    (notSeeding : action.seedsRobots = false) (name : String) :
    name ∈ (reduce state action).robotsByName.keys ↔
      action ≠ .removeRobot name ∧ (name ∈ state.robotsByName.keys ∨ action.addsRobot name) := by
  rw [ObjectMap.mem_keys_iff_isSome, ObjectMap.mem_keys_iff_isSome, reduce_robotsByName]
  cases action with
  | initializeState initialRobots _ =>
      cases initialRobots with
      | none => simp [Action.addsRobot, robotsByNameReducer]
      | some _ => simp [Action.seedsRobots] at notSeeding
  | removeRobot removed =>
      rw [robots_removeRobot]
      by_cases hit : name = removed
      · simp [hit]
      · simp [Action.addsRobot, hit, Ne.symm hit]
  | serviceFound ip port announced =>
      rw [robots_serviceFound]
      by_cases hit : name = announced
      · subst hit
        by_cases inherited : name ∈ objectPrototypeProperties <;>
          simp [Action.addsRobot, inherited]
      · simp [Action.addsRobot, hit, Ne.symm hit]
  | healthPolled result =>
      rw [robots_healthPolled]
      by_cases named : result.robotName = some name <;> simp [Action.addsRobot, named]

theorem get_robots_unwritten {state : State} {action : Action}
    (notSeeding : action.seedsRobots = false) {name : String}
    (unwritten : action.writtenName ≠ some name) :
    (reduce state action).robotsByName.get name = state.robotsByName.get name := by
  rw [reduce_robotsByName]
  cases action with
  | initializeState initialRobots _ =>
      cases initialRobots with
      | none => rfl
      | some _ => simp [Action.seedsRobots] at notSeeding
  | removeRobot removed =>
      have away : name ≠ removed := fun same => unwritten (by rw [same]; rfl)
      rw [robots_removeRobot, if_neg away]
  | serviceFound ip port announced =>
      have away : name ≠ announced := fun same => unwritten (by rw [same]; rfl)
      rw [robots_serviceFound, if_neg fun hit => away hit.1]
  | healthPolled result =>
      rw [robots_healthPolled]
      exact if_neg unwritten

/-- Apart from reseeding, an action touches the robot entry of the name it
carries only. A name is a key afterwards exactly when the action is not its
removal and the name was a key or the action adds it: an announcement of a
name of `Object.prototype` adds nothing, as `state[name]` finds the inherited
member. -/
theorem robotsByName_frame (state : State) (action : Action)
    (notSeeding : action.seedsRobots = false) (name : String) :
    (name ∈ (reduce state action).robotsByName.keys ↔
        action ≠ .removeRobot name ∧ (name ∈ state.robotsByName.keys ∨ action.addsRobot name)) ∧
      (action.writtenName ≠ some name →
        (reduce state action).robotsByName.get name = state.robotsByName.get name) :=
  ⟨mem_robots_reduce_iff notSeeding name, get_robots_unwritten notSeeding⟩

theorem robotsByName_frame_on_prototype_name :
    "constructor" ∉ (reduce initialState
      (.serviceFound "10.0.0.5" 31950 "constructor")).robotsByName.keys ∧
    "bot-1" ∈ (reduce initialState (.serviceFound "10.0.0.5" 31950 "bot-1")).robotsByName.keys :=
  ⟨fun member => absurd ((robotsByName_frame initialState _ (by rfl) "constructor").1.1 member).2
      (by decide),
    (robotsByName_frame initialState (.serviceFound "10.0.0.5" 31950 "bot-1") rfl "bot-1").1.2
      ⟨nofun, .inr (by decide)⟩⟩

/-- REMOVE_ROBOT of a robot whose hosts all sit at one ip deletes the robot
and keeps the host there as it was: a lone host stays attributed to the
removed name. -/
theorem removeRobot_keeps_lone_host (state : State) (name ip : String) (host : HostState)
    (found : state.hostsByIp.get ip = some host)
    (alone : ∀ ip' host', state.hostsByIp.get ip' = some host' → host'.robotName = some name →
      ip' = ip) :
    (reduce state (.removeRobot name)).hostsByIp.get ip = some host ∧
      name ∉ (reduce state (.removeRobot name)).robotsByName.keys := by
  have kept : ¬Evicted state.hostsByIp (.removeRobot name) ip := by
    rintro ⟨several, -⟩
    have single : ∀ key ∈ state.hostsByIp.keys.filter
        (fun key => (state.hostsByIp.get key).bind HostState.robotName = some name), key ∈ [ip] := by
      intro key member
      obtain ⟨stored, carried, storedName⟩ :=
        Option.bind_eq_some.1 (of_decide_eq_true (List.mem_filter.1 member).2)
      exact List.mem_singleton.2 (alone key stored carried storedName)
    have distinct : (state.hostsByIp.keys.filter
        (fun key => (state.hostsByIp.get key).bind HostState.robotName = some name)).Nodup :=
      state.hostsByIp.keysNodup.filter _
    have short := (List.subperm_of_subset distinct single).length_le
    simp only [List.length_singleton] at short
    omega
  refine ⟨(get_hosts_unwritten (rfl : Action.seedsRobots (.removeRobot name) = false) kept
    nofun).trans found, ?_⟩
  rw [← ObjectMap.get_eq_none_iff, reduce_robotsByName, robots_removeRobot, if_pos rfl]

theorem removeRobot_keeps_lone_host_after_service :
    (reduce (reduce initialState (.serviceFound "10.0.0.5" 31950 "bot-1"))
        (.removeRobot "bot-1")).hostsByIp.get "10.0.0.5" =
      some ⟨"10.0.0.5", 31950, some "bot-1", true, none, none, none, none⟩ :=
  (removeRobot_keeps_lone_host _ "bot-1" "10.0.0.5" _ (by decide)
    (fun ip' host' found' _ => by
      simp only [reduce_hostsByIp, hosts_serviceFound, ObjectMap.get_set] at found'
      split at found'
      · assumption
      · simp [initialState] at found')).1

/-! ## Reseeding -/

/-- INITIALIZE_STATE carrying `initialRobots` replaces both maps, whatever was
there: the robots are the seeded ones, and the hosts are the seeded addresses,
each never seen nor polled and attributed to a seeded robot listing it. -/
theorem initializeState_seeds (state : State) (initialRobots : List DiscoveryClientRobot)
    (manualAddresses : Option (List Address)) :
    (∀ name, name ∈ (reduce state (.initializeState (some initialRobots)
        manualAddresses)).robotsByName.keys ↔ ∃ robot ∈ initialRobots, robot.name = name) ∧
      (∀ ip, ip ∈ (reduce state (.initializeState (some initialRobots)
          manualAddresses)).hostsByIp.keys ↔
        ∃ robot ∈ initialRobots, ∃ address ∈ robot.addresses, address.ip = ip) ∧
      (∀ ip host, (reduce state (.initializeState (some initialRobots)
          manualAddresses)).hostsByIp.get ip = some host →
        host.seen = false ∧ host.healthStatus = none ∧ host.serverHealthStatus = none ∧
          ∃ robot ∈ initialRobots, host.robotName = some robot.name ∧
            ∃ address ∈ robot.addresses, address.ip = ip ∧ address.port = host.port) := by
  simp only [ObjectMap.mem_keys_iff_isSome, reduce_robotsByName, reduce_hostsByIp,
    robotsByNameReducer, hostsByIpReducer, Reduced.value_fresh]
  refine ⟨fun name => ⟨fun stored => ?_, ?_⟩, fun ip => ⟨fun stored => ?_, ?_⟩,
    fun ip host found => ?_⟩
  · obtain ⟨robot, found⟩ := Option.isSome_iff_exists.1 stored
    obtain ⟨member, named⟩ := ObjectMap.get_keyBy _ _ found
    obtain ⟨seeded, listed, rfl⟩ := List.mem_map.1 member
    exact ⟨seeded, listed, named⟩
  · rintro ⟨robot, listed, rfl⟩
    exact ObjectMap.isSome_get_keyBy _ RobotState.name (List.mem_map_of_mem _ listed)
  · obtain ⟨host, found⟩ := Option.isSome_iff_exists.1 stored
    obtain ⟨member, rfl⟩ := ObjectMap.get_keyBy _ _ found
    obtain ⟨robot, listed, address, addressed, rfl⟩ := mem_initialHostStates member
    exact ⟨robot, listed, address, addressed, rfl⟩
  · rintro ⟨robot, listed, address, addressed, rfl⟩
    have seeded : makeHostState address.ip address.port robot.name ∈ initialHostStates initialRobots := by
      simp only [initialHostStates, List.mem_flatMap, List.mem_map]
      exact ⟨robot, listed, address, addressed, rfl⟩
    exact ObjectMap.isSome_get_keyBy _ HostState.ip seeded
  · obtain ⟨member, rfl⟩ := ObjectMap.get_keyBy _ _ found
    obtain ⟨robot, listed, address, addressed, rfl⟩ := mem_initialHostStates member
    exact ⟨rfl, rfl, rfl, robot, listed, rfl, address, addressed, rfl, rfl⟩

/-! ## What stays learnt -/

def Action.keepsHistory : Action → Bool
  | .removeRobot _ => false
  | .initializeState (some _) _ => false
  | _ => true

theorem Action.seedsRobots_of_keepsHistory {action : Action} (keeps : action.keepsHistory) :
    action.seedsRobots = false := by
  cases action with
  | initializeState initialRobots _ =>
      cases initialRobots <;> simp_all [Action.keepsHistory, Action.seedsRobots]
  | _ => rfl

def SeenAt (hosts : ObjectMap HostState) (ip : String) : Prop :=
  ∃ host, hosts.get ip = some host ∧ host.seen = true

def PayloadKnown {Payload : Type} (payload : RobotState → Option Payload)
    (robots : ObjectMap RobotState) (name : String) : Prop :=
  ∃ robot, robots.get name = some robot ∧ (payload robot).isSome

theorem seenAt_reduce {state : State} {action : Action} {ip : String}
    (keeps : action.keepsHistory) (seen : SeenAt state.hostsByIp ip) :
    SeenAt (reduce state action).hostsByIp ip := by
  obtain ⟨host, found, wasSeen⟩ := seen
  rw [reduce_hostsByIp]
  cases action with
  | initializeState initialRobots _ =>
      cases initialRobots with
      | none => exact ⟨host, found, wasSeen⟩
      | some _ => simp [Action.keepsHistory] at keeps
  | removeRobot => simp [Action.keepsHistory] at keeps
  | serviceFound written port name =>
      rw [hosts_serviceFound]
      by_cases hit : ip = written
      · exact ⟨serviceFoundHostState (state.hostsByIp.get written) written port name,
          by simp [hit], rfl⟩
      · exact ⟨host, by simp [hit, found], wasSeen⟩
  | healthPolled result =>
      rw [hosts_healthPolled]
      by_cases hit : ip = result.ip
      · subst hit
        exact ⟨healthPolledHostState (state.hostsByIp.get result.ip) result, by simp,
          by simp [healthPolledHostState, found, wasSeen]⟩
      · have kept : ip ∉ healthPolledRemovals state.hostsByIp result
            (healthPolledHostState (state.hostsByIp.get result.ip) result).robotName := by
          rw [mem_healthPolledRemovals]
          rintro ⟨-, stored, stored', -, -, unseen, -⟩
          simp_all
        exact ⟨host, by simp [hit, kept, found], wasSeen⟩

theorem robot_reduce {state : State} {action : Action} {name : String} {robot : RobotState}
    (keeps : action.keepsHistory) (found : state.robotsByName.get name = some robot) :
    ∃ robot', (reduce state action).robotsByName.get name = some robot' ∧
      (robot.health.isSome → robot'.health.isSome) ∧
        (robot.serverHealth.isSome → robot'.serverHealth.isSome) := by
  rw [reduce_robotsByName]
  cases action with
  | initializeState initialRobots _ =>
      cases initialRobots with
      | none => exact ⟨robot, found, id, id⟩
      | some _ => simp [Action.keepsHistory] at keeps
  | removeRobot => simp [Action.keepsHistory] at keeps
  | serviceFound ip port announced =>
      refine ⟨robot, ?_, id, id⟩
      rw [robots_serviceFound]
      split
      · next hit => rw [← hit.1, found]; rfl
      · exact found
  | healthPolled result =>
      rw [robots_healthPolled]
      by_cases named : result.robotName = some name
      · refine ⟨healthPolledRobotState (some robot) name result, by simp [named, found],
          fun known => ?_, fun known => ?_⟩ <;> simp [healthPolledRobotState, known]
      · exact ⟨robot, by simp [named, found], id, id⟩

def Action.report {Payload : Type} (payload : HealthPollerResult → Option Payload) (name : String) :
    Action → Option Payload
  | .healthPolled result => if result.robotName = some name then payload result else none
  | _ => none

theorem payloads_reduce {state : State} {action : Action} (keeps : action.keepsHistory)
    (name : String) :
    ((reduce state action).robotsByName.get name).bind RobotState.health =
        (action.report HealthPollerResult.health name).or
          ((state.robotsByName.get name).bind RobotState.health) ∧
      ((reduce state action).robotsByName.get name).bind RobotState.serverHealth =
        (action.report HealthPollerResult.serverHealth name).or
          ((state.robotsByName.get name).bind RobotState.serverHealth) := by
  rw [reduce_robotsByName]
  cases action with
  | initializeState initialRobots _ =>
      cases initialRobots with
      | none => simp [robotsByNameReducer, Action.report]
      | some _ => simp [Action.keepsHistory] at keeps
  | removeRobot => simp [Action.keepsHistory] at keeps
  | serviceFound ip port announced =>
      rw [robots_serviceFound]
      split
      · next hit =>
        obtain ⟨rfl, -⟩ := hit
        cases state.robotsByName.get name <;> simp [Action.report]
      · simp [Action.report]
  | healthPolled result =>
      rw [robots_healthPolled]
      by_cases named : result.robotName = some name <;>
        simp [named, healthPolledRobotState, Action.report]

/-- A payload that every allowed action leaves as reported, or as it was, is
the last one reported along a run. -/
theorem run_payload {Payload : Type} (payload : RobotState → Option Payload)
    (report : Action → Option Payload) (name : String)
    (step : ∀ state action, action.keepsHistory →
      ((reduce state action).robotsByName.get name).bind payload =
        (report action).or ((state.robotsByName.get name).bind payload)) :
    ∀ (state : State) (actions : List Action), (∀ action ∈ actions, action.keepsHistory) →
      ((run state actions).robotsByName.get name).bind payload =
        (actions.filterMap report).getLast?.or ((state.robotsByName.get name).bind payload)
  | _, [], _ => rfl
  | state, action :: rest, allowed => by
      have later := run_payload payload report name step (reduce state action) rest
        fun other member => allowed other (List.mem_cons_of_mem _ member)
      have reports : (action :: rest).filterMap report =
          (report action).toList ++ rest.filterMap report := by
        cases reported : report action <;> simp [List.filterMap_cons, reported]
      rw [run, List.foldl_cons, ← run, later, step state action (allowed action (List.mem_cons_self _ _)),
        reports, List.getLast?_append, Option.or_assoc]
      cases report action <;> rfl

/-- Along a run without REMOVE_ROBOT and without reseeding, each payload of a
robot is the last non-null one that a health poll reported for it, or the one
it had before when none was reported. -/
theorem robot_payloads_are_latest_reports (state : State) (actions : List Action)
    (allowed : ∀ action ∈ actions, action.keepsHistory) (name : String) :
    ((run state actions).robotsByName.get name).bind RobotState.health =
        (actions.filterMap (Action.report HealthPollerResult.health name)).getLast?.or
          ((state.robotsByName.get name).bind RobotState.health) ∧
      ((run state actions).robotsByName.get name).bind RobotState.serverHealth =
        (actions.filterMap (Action.report HealthPollerResult.serverHealth name)).getLast?.or
          ((state.robotsByName.get name).bind RobotState.serverHealth) :=
  ⟨run_payload _ _ name (fun _ _ keeps => (payloads_reduce keeps name).1) state actions allowed,
    run_payload _ _ name (fun _ _ keeps => (payloads_reduce keeps name).2) state actions allowed⟩

theorem robot_payloads_are_latest_reports_after_two_polls :
    ((run initialState
        [.healthPolled ⟨"10.0.0.1", 31950, some ⟨"bot-1", ∅⟩, none, none, none⟩,
          .healthPolled ⟨"10.0.0.2", 31950, none, some ⟨"bot-1", ∅⟩, none, none⟩]).robotsByName.get
        "bot-1").bind RobotState.health = some ⟨"bot-1", ∅⟩ := by
  have latest := (robot_payloads_are_latest_reports initialState
    [.healthPolled ⟨"10.0.0.1", 31950, some ⟨"bot-1", ∅⟩, none, none, none⟩,
      .healthPolled ⟨"10.0.0.2", 31950, none, some ⟨"bot-1", ∅⟩, none, none⟩]
    (by decide) "bot-1").1
  rw [latest]
  decide

/-- Along a run without REMOVE_ROBOT and without reseeding, a seen host stays
stored and seen, and a robot's known health payloads stay known. -/
theorem seen_and_health_persist (state : State) (actions : List Action)
    (allowed : ∀ action ∈ actions, action.keepsHistory) :
    (∀ ip, SeenAt state.hostsByIp ip → SeenAt (run state actions).hostsByIp ip) ∧
      (∀ name, PayloadKnown RobotState.health state.robotsByName name →
        PayloadKnown RobotState.health (run state actions).robotsByName name) ∧
      (∀ name, PayloadKnown RobotState.serverHealth state.robotsByName name →
        PayloadKnown RobotState.serverHealth (run state actions).robotsByName name) := by
  induction actions generalizing state with
  | nil => exact ⟨fun _ => id, fun _ => id, fun _ => id⟩
  | cons action rest ih =>
      have keeps := allowed action (List.mem_cons_self _ _)
      obtain ⟨seenLater, healthLater, serverHealthLater⟩ :=
        ih (reduce state action) fun later member => allowed later (List.mem_cons_of_mem _ member)
      refine ⟨fun ip seen => seenLater ip (seenAt_reduce keeps seen), ?_, ?_⟩
      · rintro name ⟨robot, found, known⟩
        obtain ⟨robot', found', kept, -⟩ := robot_reduce keeps found
        exact healthLater name ⟨robot', found', kept known⟩
      · rintro name ⟨robot, found, known⟩
        obtain ⟨robot', found', -, kept⟩ := robot_reduce keeps found
        exact serverHealthLater name ⟨robot', found', kept known⟩

theorem seen_persists_across_poll :
    SeenAt (run (reduce initialState (.serviceFound "10.0.0.5" 31950 "bot-1"))
      [.healthPolled ⟨"10.0.0.5", 31950, none, none, none, none⟩]).hostsByIp "10.0.0.5" :=
  (seen_and_health_persist _ [.healthPolled ⟨"10.0.0.5", 31950, none, none, none, none⟩]
    (by decide)).1 "10.0.0.5"
      ⟨⟨"10.0.0.5", 31950, some "bot-1", true, none, none, none, none⟩, by decide, rfl⟩

/-! ## What the store has learnt, and from which events -/

/-- A property of states that an allowed action makes true exactly when it held
before or the action brings it about holds after a run exactly when it held at
the start or some action of the run brings it about. -/
theorem run_or_iff (holds : State → Prop) (bringsAbout : Action → Prop)
    (step : ∀ state action, action.keepsHistory →
      (holds (reduce state action) ↔ holds state ∨ bringsAbout action)) :
    ∀ (state : State) (actions : List Action), (∀ action ∈ actions, action.keepsHistory) →
      (holds (run state actions) ↔ holds state ∨ ∃ action ∈ actions, bringsAbout action)
  | _, [], _ => by simp [run]
  | state, action :: rest, allowed => by
      rw [run, List.foldl_cons, ← run,
        run_or_iff holds bringsAbout step (reduce state action) rest
          fun other member => allowed other (List.mem_cons_of_mem _ member),
        step state action (allowed action (List.mem_cons_self _ _))]
      simp only [List.mem_cons, exists_eq_or_imp, or_assoc]

def Action.seesIp (ip : String) : Action → Bool
  | .serviceFound announced _ _ => announced == ip
  | .healthPolled result =>
      result.ip == ip && (getHealthStatus result.health result.healthError != .unreachable ||
        getHealthStatus result.serverHealth result.serverHealthError != .unreachable)
  | _ => false

theorem seenAt_reduce_iff {state : State} {action : Action} {ip : String}
    (keeps : action.keepsHistory) :
    SeenAt (reduce state action).hostsByIp ip ↔ SeenAt state.hostsByIp ip ∨ action.seesIp ip := by
  constructor
  · rintro ⟨host, found, seen⟩
    rcases get_hosts_reduce found with before | ⟨_, _, rfl, -⟩ | ⟨port, name, rfl, rfl⟩ |
        ⟨result, rfl, rfl, rfl⟩
    · exact .inl ⟨host, before, seen⟩
    · simp [Action.keepsHistory] at keeps
    · exact .inr (by simp [Action.seesIp])
    · simp only [healthPolledHostState, Bool.or_eq_true] at seen
      rcases seen with (previous | answered) | serverAnswered
      · cases stored : state.hostsByIp.get result.ip with
        | none => simp [stored] at previous
        | some old => exact .inl ⟨old, stored, by simpa [stored] using previous⟩
      · exact .inr (by simp [Action.seesIp, answered])
      · exact .inr (by simp [Action.seesIp, serverAnswered])
  · rintro (seen | sees)
    · exact seenAt_reduce keeps seen
    · rw [reduce_hostsByIp]
      cases action with
      | serviceFound announced port name =>
          obtain rfl : announced = ip := by simpa [Action.seesIp] using sees
          exact ⟨_, by rw [hosts_serviceFound, ObjectMap.get_set, if_pos rfl], rfl⟩
      | healthPolled result =>
          simp only [Action.seesIp, Bool.and_eq_true, beq_iff_eq] at sees
          obtain ⟨rfl, answered⟩ := sees
          refine ⟨_, by rw [hosts_healthPolled, ObjectMap.get_set, if_pos rfl], ?_⟩
          simp only [Bool.or_eq_true, bne_iff_ne, ne_eq] at answered
          simp only [healthPolledHostState, Bool.or_eq_true, bne_iff_ne, ne_eq]
          exact answered.elim (fun health => .inl (.inr health)) .inr
      | initializeState => simp [Action.seesIp] at sees
      | removeRobot => simp [Action.seesIp] at sees

/-- Along a run without REMOVE_ROBOT and without reseeding, an ip holds a seen
host afterwards exactly when it held one before, or the run announced it over
mDNS, or one of its polls was answered on some endpoint. -/
theorem seen_means_announced_or_answered (state : State) (actions : List Action)
    (allowed : ∀ action ∈ actions, action.keepsHistory) (ip : String) :
    SeenAt (run state actions).hostsByIp ip ↔
      SeenAt state.hostsByIp ip ∨ ∃ action ∈ actions, action.seesIp ip :=
  run_or_iff (fun state => SeenAt state.hostsByIp ip) (fun action => action.seesIp ip)
    (fun _ _ keeps => seenAt_reduce_iff keeps) state actions allowed

theorem seen_means_announced_or_answered_after_good_poll :
    SeenAt (run initialState
      [.healthPolled ⟨"10.0.0.5", 31950, some ⟨"bot-1", ∅⟩, none, none, none⟩]).hostsByIp
        "10.0.0.5" :=
  (seen_means_announced_or_answered initialState
    [.healthPolled ⟨"10.0.0.5", 31950, some ⟨"bot-1", ∅⟩, none, none, none⟩] (by decide)
    "10.0.0.5").2 (.inr ⟨_, List.mem_cons_self _ _, by decide⟩)

/-- Along a run without REMOVE_ROBOT and without reseeding, `robotsByName`
holds a name afterwards exactly when it held it before, or the run announced
it over mDNS while `Object.prototype` lacks it, or a health poll of the run
named that robot. -/
theorem robots_are_the_announced_ones (state : State) (actions : List Action)
    (allowed : ∀ action ∈ actions, action.keepsHistory) (name : String) :
    name ∈ (run state actions).robotsByName.keys ↔
      name ∈ state.robotsByName.keys ∨ ∃ action ∈ actions, action.addsRobot name :=
  run_or_iff (fun state => name ∈ state.robotsByName.keys) (fun action => action.addsRobot name)
    (fun _ action keeps => by
      have notRemoval : action ≠ .removeRobot name := by
        rintro rfl
        simp [Action.keepsHistory] at keeps
      simp [mem_robots_reduce_iff (Action.seedsRobots_of_keepsHistory keeps), notRemoval])
    state actions allowed

theorem robots_are_the_announced_ones_after_poll :
    "constructor" ∈ (run initialState
      [.serviceFound "10.0.0.5" 31950 "constructor",
        .healthPolled ⟨"10.0.0.5", 31950, none, some ⟨"constructor", ∅⟩, none, none⟩]).robotsByName.keys :=
  (robots_are_the_announced_ones initialState
    [.serviceFound "10.0.0.5" 31950 "constructor",
      .healthPolled ⟨"10.0.0.5", 31950, none, some ⟨"constructor", ∅⟩, none, none⟩] (by decide)
    "constructor").2 (.inr ⟨_, List.mem_cons_of_mem _ (List.mem_cons_self _ _), by decide⟩)

end Opentrons.DiscoveryClient
