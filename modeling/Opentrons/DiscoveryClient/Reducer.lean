import Opentrons.DiscoveryClient.Types

/-!
# The store reducer

A transcription of `store/reducer.ts`. Each slice reducer returns either the
`state` it was given or a newly built object, and `combineReducers` keeps the
whole state object exactly when every slice kept its own; `Reduced` records
which of the two a reducer returned, so that reference-based change detection
downstream can be stated. `reduce` is the state a dispatch leaves behind.
-/

namespace Opentrons.DiscoveryClient

set_option autoImplicit false

/-- What a reducer returns: the `state` it was given, or a newly built one. -/
inductive Reduced (Slice : Type) where
  | same
  | fresh (next : Slice)
  deriving DecidableEq

def Reduced.value {Slice : Type} (previous : Slice) : Reduced Slice → Slice
  | .same => previous
  | .fresh next => next

def initialState : State := ⟨ObjectMap.empty, ObjectMap.empty, []⟩

def makeHostState (ip : String) (port : Nat) (robotName : String) : HostState :=
  ⟨ip, port, some robotName, false, none, none, none, none⟩

def getHealthStatus {Response : Type} (responseData : Option Response)
    (error : Option HealthErrorResponse) : HealthStatus :=
  match responseData, error with
  | some _, _ => .ok
  | none, some error => if 400 ≤ error.status then .notOk else .unreachable
  | none, none => .unreachable

def healthPolledRobotState (robot : Option RobotState) (name : String)
    (result : HealthPollerResult) : RobotState :=
  ⟨name, result.health.or (robot.bind RobotState.health),
    result.serverHealth.or (robot.bind RobotState.serverHealth), ∅⟩

/-- Its reads `state[name]` and `name in state` also find the properties of
`Object.prototype`. -/
def robotsByNameReducer (state : ObjectMap RobotState) :
    Action → Reduced (ObjectMap RobotState)
  | .initializeState none _ => .same
  | .initializeState (some initialRobots) _ =>
      .fresh (ObjectMap.keyBy (initialRobots.map DiscoveryClientRobot.robotState) RobotState.name)
  | .removeRobot name => if state.hasProperty name then .fresh (state.«omit» [name]) else .same
  | .serviceFound _ _ name =>
      let robot := state.read name
      let health := robot.ownValue.bind RobotState.health
      let serverHealth := robot.ownValue.bind RobotState.serverHealth
      if robot.isNullish then .fresh (state.set name ⟨name, health, serverHealth, ∅⟩) else .same
  | .healthPolled result =>
      match result.robotName with
      | none => .same
      | some name =>
          let nextRobotState := healthPolledRobotState (state.read name).ownValue name result
          if state.read name = .own nextRobotState then .same
          else .fresh (state.set name nextRobotState)

def serviceFoundHostState (host : Option HostState) (ip : String) (port : Nat)
    (robotName : String) : HostState :=
  let newHost := host.bind HostState.robotName != some robotName
  { ip, port
    robotName := some robotName
    seen := true
    healthStatus := if newHost then none else host.bind HostState.healthStatus
    serverHealthStatus := if newHost then none else host.bind HostState.serverHealthStatus
    healthError := if newHost then none else host.bind HostState.healthError
    serverHealthError := if newHost then none else host.bind HostState.serverHealthError }

def healthPolledHostState (host : Option HostState) (result : HealthPollerResult) : HostState :=
  let healthStatus := getHealthStatus result.health result.healthError
  let serverHealthStatus := getHealthStatus result.serverHealth result.serverHealthError
  { ip := result.ip
    port := result.port
    seen := (host.map HostState.seen).getD false || healthStatus != .unreachable ||
      serverHealthStatus != .unreachable
    healthStatus := some healthStatus
    serverHealthStatus := some serverHealthStatus
    healthError := result.healthError
    serverHealthError := result.serverHealthError
    robotName := result.robotName.or (host.bind HostState.robotName) }

def HealthPollerResult.ipIsGood (result : HealthPollerResult) : Bool :=
  getHealthStatus result.health result.healthError == .ok &&
    getHealthStatus result.serverHealth result.serverHealthError == .ok

/-- The filter of `removals`: another host of the same robot, never seen, and
unreachable on both endpoints. -/
def isStaleHost (ip : String) (robotName : Option String) (targetIp : String)
    (target : HostState) : Bool :=
  decide (targetIp ≠ ip ∧ target.robotName = robotName ∧ target.seen = false ∧
    target.healthStatus = some .unreachable ∧ target.serverHealthStatus = some .unreachable)

def healthPolledRemovals (state : ObjectMap HostState) (result : HealthPollerResult)
    (robotName : Option String) : List String :=
  if result.ipIsGood then state.keysWhere (isStaleHost result.ip robotName) else []

def initialHostStates (initialRobots : List DiscoveryClientRobot) : List HostState :=
  initialRobots.flatMap fun robot =>
    robot.addresses.map fun address => makeHostState address.ip address.port robot.name

/-- A property of `Object.prototype` that `state[ip]` finds reads here as
`undefined` does: every field taken from it (`host?.robotName`, `host?.seen`)
is `undefined` and `isEqual` of it and a host record is false. So the own
lookup models `state[ip]`. -/
def hostsByIpReducer (state : ObjectMap HostState) : Action → Reduced (ObjectMap HostState)
  | .initializeState none _ => .same
  | .initializeState (some initialRobots) _ =>
      .fresh (ObjectMap.keyBy (initialHostStates initialRobots) HostState.ip)
  | .removeRobot robotName =>
      let removals := state.keysWhere fun _ target => target.robotName = some robotName
      if removals.length > 1 then .fresh (state.«omit» removals) else .same
  | .serviceFound ip port robotName =>
      let host := state.get ip
      let nextHostState := serviceFoundHostState host ip port robotName
      if host = some nextHostState then .same else .fresh (state.set ip nextHostState)
  | .healthPolled result =>
      let host := state.get result.ip
      let nextHostState := healthPolledHostState host result
      let removals := healthPolledRemovals state result nextHostState.robotName
      if host = some nextHostState ∧ removals.length = 0 then .same
      else .fresh ((state.«omit» removals).set result.ip nextHostState)

def manualAddressesReducer (_state : List Address) : Action → Reduced (List Address)
  | .initializeState _ (some manualAddresses) => .fresh manualAddresses
  | _ => .same

/-- `combineReducers`: a new state object exactly when some slice changed. -/
def reducer (state : State) (action : Action) : Reduced State :=
  match robotsByNameReducer state.robotsByName action, hostsByIpReducer state.hostsByIp action,
    manualAddressesReducer state.manualAddresses action with
  | .same, .same, .same => .same
  | robotsByName, hostsByIp, manualAddresses =>
      .fresh ⟨robotsByName.value state.robotsByName, hostsByIp.value state.hostsByIp,
        manualAddresses.value state.manualAddresses⟩

def reduce (state : State) (action : Action) : State := (reducer state action).value state

def run (state : State) (actions : List Action) : State := actions.foldl reduce state

inductive Reachable : State → Prop where
  | initial : Reachable initialState
  | step {state : State} (action : Action) : Reachable state → Reachable (reduce state action)

/-! ## What each reducer leaves behind -/

@[simp] theorem Reduced.value_same {Slice : Type} (previous : Slice) :
    (Reduced.same : Reduced Slice).value previous = previous := rfl

@[simp] theorem Reduced.value_fresh {Slice : Type} (previous next : Slice) :
    (Reduced.fresh next).value previous = next := rfl

theorem reducer_eq_same_iff (state : State) (action : Action) :
    reducer state action = .same ↔
      robotsByNameReducer state.robotsByName action = .same ∧
        hostsByIpReducer state.hostsByIp action = .same ∧
          manualAddressesReducer state.manualAddresses action = .same := by
  unfold reducer
  split <;> simp_all

theorem reduce_robotsByName (state : State) (action : Action) :
    (reduce state action).robotsByName =
      (robotsByNameReducer state.robotsByName action).value state.robotsByName := by
  unfold reduce reducer
  split <;> simp_all

theorem reduce_hostsByIp (state : State) (action : Action) :
    (reduce state action).hostsByIp =
      (hostsByIpReducer state.hostsByIp action).value state.hostsByIp := by
  unfold reduce reducer
  split <;> simp_all

theorem reduce_manualAddresses (state : State) (action : Action) :
    (reduce state action).manualAddresses =
      (manualAddressesReducer state.manualAddresses action).value state.manualAddresses := by
  unfold reduce reducer
  split <;> simp_all

theorem robots_removeRobot (robots : ObjectMap RobotState) (name target : String) :
    ((robotsByNameReducer robots (.removeRobot name)).value robots).get target =
      if target = name then none else robots.get target := by
  by_cases present : robots.hasProperty name
  · simp [robotsByNameReducer, present]
  · have absent : robots.get name = none := (robots.get_eq_none_iff name).2 fun member =>
      present ((robots.hasProperty_iff name).2 (.inl member))
    by_cases hit : target = name
    · subst hit
      simp [robotsByNameReducer, present, absent]
    · simp [robotsByNameReducer, present, hit]

theorem robots_serviceFound (robots : ObjectMap RobotState) (ip : String) (port : Nat)
    (name target : String) :
    ((robotsByNameReducer robots (.serviceFound ip port name)).value robots).get target =
      if target = name ∧ name ∉ objectPrototypeProperties then
        some ((robots.get name).getD ⟨name, none, none, ∅⟩)
      else robots.get target := by
  cases found : robots.get name with
  | none =>
      by_cases inherited : name ∈ objectPrototypeProperties
      · simp [robotsByNameReducer, ObjectMap.read, found, inherited, Property.isNullish]
      · by_cases hit : target = name
        · subst hit
          simp [robotsByNameReducer, ObjectMap.read, found, inherited, Property.isNullish,
            Property.ownValue]
        · simp [robotsByNameReducer, ObjectMap.read, found, inherited, Property.isNullish, hit]
  | some robot =>
      by_cases hit : target = name
      · subst hit
        simp [robotsByNameReducer, ObjectMap.read, found, Property.isNullish]
      · simp [robotsByNameReducer, ObjectMap.read, found, Property.isNullish, hit]

theorem robots_healthPolled (robots : ObjectMap RobotState) (result : HealthPollerResult)
    (target : String) :
    ((robotsByNameReducer robots (.healthPolled result)).value robots).get target =
      if result.robotName = some target then
        some (healthPolledRobotState (robots.get target) target result)
      else robots.get target := by
  cases named : result.robotName with
  | none => simp [robotsByNameReducer, named]
  | some name =>
      simp only [robotsByNameReducer, named, ObjectMap.ownValue_read, ObjectMap.read_eq_own_iff]
      split
      · next unchanged =>
        by_cases hit : name = target
        · subst hit
          simpa using unchanged
        · simp [hit]
      · by_cases hit : name = target
        · subst hit
          simp
        · simp [hit, Ne.symm hit]

theorem getHealthStatus_eq_ok {Response : Type} (response : Option Response)
    (error : Option HealthErrorResponse) : getHealthStatus response error = .ok ↔ response.isSome := by
  unfold getHealthStatus
  split
  · simp
  · split <;> simp
  · simp

theorem HealthPollerResult.robotName_eq_none {result : HealthPollerResult} :
    result.robotName = none ↔ result.health = none ∧ result.serverHealth = none := by
  simp only [HealthPollerResult.robotName, Option.or_eq_none, Option.map_eq_none']
  exact And.comm

theorem HealthPollerResult.robotName_of_ipIsGood {result : HealthPollerResult}
    (good : result.ipIsGood) : ∃ name, result.robotName = some name := by
  simp only [HealthPollerResult.ipIsGood, Bool.and_eq_true, beq_iff_eq, getHealthStatus_eq_ok]
    at good
  obtain ⟨serverHealth, answered⟩ := Option.isSome_iff_exists.1 good.2
  exact ⟨serverHealth.name, by simp [HealthPollerResult.robotName, answered]⟩

theorem healthPolledHostState_robotName_of_ipIsGood {result : HealthPollerResult}
    (good : result.ipIsGood) (polled : Option HostState) :
    (healthPolledHostState polled result).robotName = result.robotName := by
  obtain ⟨name, named⟩ := result.robotName_of_ipIsGood good
  simp [healthPolledHostState, named]

theorem mem_healthPolledRemovals (hosts : ObjectMap HostState) (result : HealthPollerResult)
    (robotName : Option String) (ip : String) :
    ip ∈ healthPolledRemovals hosts result robotName ↔
      result.ipIsGood ∧ ∃ host, hosts.get ip = some host ∧ ip ≠ result.ip ∧
        host.robotName = robotName ∧ host.seen = false ∧
          host.healthStatus = some .unreachable ∧ host.serverHealthStatus = some .unreachable := by
  unfold healthPolledRemovals
  split
  · simp_all [ObjectMap.mem_keysWhere, isStaleHost]
  · simp_all

theorem hosts_serviceFound (hosts : ObjectMap HostState) (ip : String) (port : Nat)
    (name : String) :
    (hostsByIpReducer hosts (.serviceFound ip port name)).value hosts =
      hosts.set ip (serviceFoundHostState (hosts.get ip) ip port name) := by
  simp only [hostsByIpReducer]
  split
  · next unchanged => exact (hosts.set_of_get unchanged).symm
  · rfl

theorem hosts_healthPolled (hosts : ObjectMap HostState) (result : HealthPollerResult) :
    (hostsByIpReducer hosts (.healthPolled result)).value hosts =
      (hosts.«omit» (healthPolledRemovals hosts result
          (healthPolledHostState (hosts.get result.ip) result).robotName)).set result.ip
        (healthPolledHostState (hosts.get result.ip) result) := by
  simp only [hostsByIpReducer]
  split
  · next unchanged =>
    rw [List.length_eq_zero.1 unchanged.2, ObjectMap.omit_nil]
    exact (hosts.set_of_get unchanged.1).symm
  · rfl

theorem mem_initialHostStates {initialRobots : List DiscoveryClientRobot} {host : HostState}
    (member : host ∈ initialHostStates initialRobots) :
    ∃ robot ∈ initialRobots, ∃ address ∈ robot.addresses,
      host = makeHostState address.ip address.port robot.name := by
  simp only [initialHostStates, List.mem_flatMap, List.mem_map] at member
  obtain ⟨robot, seeded, address, listed, rfl⟩ := member
  exact ⟨robot, seeded, address, listed, rfl⟩

/-- Where a stored host can come from: it was there before, or the action
seeded it, or the action wrote it at its own ip. -/
theorem get_hosts_reduce {state : State} {action : Action} {key : String} {host : HostState}
    (found : (reduce state action).hostsByIp.get key = some host) :
    state.hostsByIp.get key = some host ∨
      (∃ initialRobots manualAddresses,
        action = .initializeState (some initialRobots) manualAddresses ∧
          host ∈ initialHostStates initialRobots ∧ host.ip = key) ∨
      (∃ port name, action = .serviceFound key port name ∧
        host = serviceFoundHostState (state.hostsByIp.get key) key port name) ∨
      (∃ result, action = .healthPolled result ∧ key = result.ip ∧
        host = healthPolledHostState (state.hostsByIp.get key) result) := by
  rw [reduce_hostsByIp] at found
  cases action with
  | initializeState initialRobots manualAddresses =>
      cases initialRobots with
      | none => exact .inl found
      | some initialRobots =>
          have seeded := ObjectMap.get_keyBy _ _ found
          exact .inr (.inl ⟨initialRobots, manualAddresses, rfl, seeded⟩)
  | removeRobot name =>
      simp only [hostsByIpReducer] at found
      split at found
      · simp only [Reduced.value_fresh, ObjectMap.get_omit] at found
        split at found
        · cases found
        · exact .inl found
      · exact .inl found
  | serviceFound ip port name =>
      rw [hosts_serviceFound, ObjectMap.get_set] at found
      split at found
      · next hit =>
        subst hit
        exact .inr (.inr (.inl ⟨port, name, rfl, (Option.some.inj found).symm⟩))
      · exact .inl found
  | healthPolled result =>
      rw [hosts_healthPolled, ObjectMap.get_set] at found
      split at found
      · next hit =>
        subst hit
        exact .inr (.inr (.inr ⟨result, rfl, rfl, (Option.some.inj found).symm⟩))
      · rw [ObjectMap.get_omit] at found
        split at found
        · cases found
        · exact .inl found

end Opentrons.DiscoveryClient
