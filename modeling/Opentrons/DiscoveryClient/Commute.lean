import Opentrons.DiscoveryClient.Frame
import Opentrons.DiscoveryClient.NoChange

/-!
# Order of concurrent events

Health checks of different addresses and mDNS announcements complete in any
order. Two such events on distinct ips, whose payloads for a common robot
agree, leave deep-equal states in either order exactly when neither interferes
with the other through eviction. A poll answered on both endpoints evicts the
never-seen hosts of its robot that were unreachable on both endpoints; the
other event may find a never-seen host of that robot at its own ip and write
there a host that depends on whether the poll evicted it first, or, being a
poll that reached neither endpoint, turn it into a host the poll then evicts.
-/

namespace Opentrons.DiscoveryClient

set_option autoImplicit false

/-! ## One key at a time -/

def writtenHost : Action → Option HostState → Option HostState
  | .serviceFound ip port name, host => some (serviceFoundHostState host ip port name)
  | .healthPolled result, host => some (healthPolledHostState host result)
  | _, host => host

/-- Whether an event leaves the host stored at another ip: only a good poll
deletes one, a stale host of the robot it names. -/
def keepsHost : Action → String → HostState → Bool
  | .healthPolled result, key, host =>
      !(result.ipIsGood && isStaleHost result.ip result.robotName key host)
  | _, _, _ => true

theorem keepsHost_of_seen {action : Action} {key : String} {host : HostState}
    (seen : host.seen = true) : keepsHost action key host = true := by
  cases action <;> simp [keepsHost, isStaleHost, seen]

theorem keepsHost_serviceFound (ip : String) (port : Nat) (name key : String) (host : HostState) :
    keepsHost (.serviceFound ip port name) key host = true := rfl

def writtenRobot : Action → String → Option RobotState → Option RobotState
  | .serviceFound _ _ name, key, robot =>
      if key = name ∧ name ∉ objectPrototypeProperties then some (robot.getD ⟨name, none, none, ∅⟩)
      else robot
  | .healthPolled result, key, robot =>
      if result.robotName = some key then some (healthPolledRobotState robot key result) else robot
  | _, _, robot => robot

theorem mem_healthPolledRemovals_iff_keepsHost {hosts : ObjectMap HostState}
    {result : HealthPollerResult} {key : String} {host : HostState} (away : key ≠ result.ip)
    (found : hosts.get key = some host) :
    key ∈ healthPolledRemovals hosts result
        (healthPolledHostState (hosts.get result.ip) result).robotName ↔
      keepsHost (.healthPolled result) key host = false := by
  rw [mem_healthPolledRemovals]
  by_cases good : result.ipIsGood
  · simp [keepsHost, isStaleHost, good, found, away,
      healthPolledHostState_robotName_of_ipIsGood good]
  · simp [keepsHost, good]

theorem get_hosts_event {state : State} {action : Action} {ip : String}
    (written : action.writtenIp = some ip) (key : String) :
    (reduce state action).hostsByIp.get key =
      if key = ip then writtenHost action (state.hostsByIp.get ip)
      else (state.hostsByIp.get key).filter (keepsHost action key) := by
  rw [reduce_hostsByIp]
  cases action with
  | serviceFound found port name =>
      cases written
      rw [hosts_serviceFound, ObjectMap.get_set]
      split
      · rfl
      · cases state.hostsByIp.get key <;> rfl
  | healthPolled result =>
      cases written
      rw [hosts_healthPolled, ObjectMap.get_set, ObjectMap.get_omit]
      split
      · rfl
      · next away =>
        cases found : state.hostsByIp.get key with
        | none => simp
        | some host =>
            simp only [mem_healthPolledRemovals_iff_keepsHost away found]
            cases kept : keepsHost (.healthPolled result) key host <;> simp [Option.filter_some, kept]
  | initializeState => cases written
  | removeRobot => cases written

theorem get_hosts_events {state : State} {first second : Action} {ip ip' : String}
    (firstIp : first.writtenIp = some ip) (secondIp : second.writtenIp = some ip')
    (distinct : ip ≠ ip') (key : String) :
    (reduce (reduce state first) second).hostsByIp.get key =
      if key = ip' then writtenHost second ((state.hostsByIp.get ip').filter (keepsHost first ip'))
      else if key = ip then (writtenHost first (state.hostsByIp.get ip)).filter (keepsHost second ip)
      else ((state.hostsByIp.get key).filter (keepsHost first key)).filter (keepsHost second key) := by
  rw [get_hosts_event secondIp, get_hosts_event firstIp, get_hosts_event firstIp,
    if_neg (Ne.symm distinct)]
  by_cases atIp' : key = ip'
  · simp [atIp']
  · by_cases atIp : key = ip <;> simp [atIp, atIp']

theorem get_robots_event {state : State} {action : Action} (event : action.writtenIp.isSome)
    (key : String) :
    (reduce state action).robotsByName.get key =
      writtenRobot action key (state.robotsByName.get key) := by
  rw [reduce_robotsByName]
  cases action with
  | serviceFound ip port name =>
      rw [robots_serviceFound]
      by_cases hit : key = name
      · subst hit
        simp [writtenRobot]
      · simp [writtenRobot, hit]
  | healthPolled result => rw [robots_healthPolled]; rfl
  | initializeState => cases event
  | removeRobot => cases event

/-! ## When two events interfere -/

def PayloadsAgree : Action → Action → Prop
  | .healthPolled first, .healthPolled second =>
      ∀ name, first.robotName = some name → second.robotName = some name →
        (∀ health health', first.health = some health → second.health = some health' →
          health = health') ∧
        (∀ serverHealth serverHealth', first.serverHealth = some serverHealth →
          second.serverHealth = some serverHealth' → serverHealth = serverHealth')
  | _, _ => True

def HostState.unreachableOnBoth (host : HostState) : Bool :=
  decide (host.healthStatus = some .unreachable ∧ host.serverHealthStatus = some .unreachable)

def HealthPollerResult.unreachableOnBoth (result : HealthPollerResult) : Bool :=
  decide (getHealthStatus result.health result.healthError = .unreachable ∧
    getHealthStatus result.serverHealth result.serverHealthError = .unreachable)

/-- An event at the ip of `host`, a never-seen host of the robot `name` that a
good poll names, whose effect there depends on whether the poll evicted `host`
first: a poll without body that reached neither endpoint, or, when `host` was
unreachable on both endpoints, any poll without body or an announcement of the
same robot. -/
def rewritesSibling (name : Option String) (host : HostState) : Action → Bool
  | .serviceFound _ _ announced => some announced == name && host.unreachableOnBoth
  | .healthPolled result =>
      result.robotName.isNone && (result.unreachableOnBoth || host.unreachableOnBoth)
  | _ => false

/-- A good poll interferes with another event when that event's ip holds a
never-seen host of the poll's robot that the event rewrites. -/
def evictionInterferes (hosts : ObjectMap HostState) : Action → Action → Bool
  | .healthPolled result, event =>
      result.ipIsGood && match event.writtenIp.bind hosts.get with
        | some host =>
            !host.seen && host.robotName == result.robotName &&
              rewritesSibling result.robotName host event
        | none => false
  | _, _ => false

/-! ## The host at the other event's ip -/

theorem HealthPollerResult.unreachableOnBoth_of_named {other : HealthPollerResult} {name : String}
    (named : other.robotName = some name) : other.unreachableOnBoth = false := by
  have answered : other.health.isSome ∨ other.serverHealth.isSome := by
    by_contra silent
    simp only [not_or, Option.not_isSome_iff_eq_none] at silent
    simp [HealthPollerResult.robotName_eq_none.2 silent] at named
  simp only [HealthPollerResult.unreachableOnBoth, decide_eq_false_iff_not, not_and]
  rcases answered with health | serverHealth
  · exact fun down => absurd ((getHealthStatus_eq_ok _ _).2 health) (by rw [down]; decide)
  · exact fun _ down => absurd ((getHealthStatus_eq_ok _ _).2 serverHealth) (by rw [down]; decide)

theorem healthPolledHostState_of_named {other : HealthPollerResult} {name : String}
    (named : other.robotName = some name) (host : Option HostState) :
    healthPolledHostState host other = healthPolledHostState none other := by
  have reached := HealthPollerResult.unreachableOnBoth_of_named named
  simp only [HealthPollerResult.unreachableOnBoth, decide_eq_false_iff_not, not_and] at reached
  have answered : (getHealthStatus other.health other.healthError != .unreachable ||
      getHealthStatus other.serverHealth other.serverHealthError != .unreachable) = true := by
    by_cases down : getHealthStatus other.health other.healthError = .unreachable <;>
      simp [down, reached]
  simp [healthPolledHostState, named, Bool.or_assoc, answered]

@[simp] theorem healthPolledHostState_unreachableOnBoth (host : Option HostState)
    (other : HealthPollerResult) :
    (healthPolledHostState host other).unreachableOnBoth = other.unreachableOnBoth := by
  simp [HostState.unreachableOnBoth, HealthPollerResult.unreachableOnBoth, healthPolledHostState]

@[simp] theorem healthPolledHostState_seen (host : Option HostState) (other : HealthPollerResult) :
    (healthPolledHostState host other).seen =
      ((host.map HostState.seen).getD false || !other.unreachableOnBoth) := by
  simp only [healthPolledHostState, HealthPollerResult.unreachableOnBoth, Bool.or_assoc]
  congr 1
  by_cases down : getHealthStatus other.health other.healthError = .unreachable <;>
    by_cases down' : getHealthStatus other.serverHealth other.serverHealthError = .unreachable <;>
    simp [down, down']

@[simp] theorem healthPolledHostState_robotName (host : Option HostState)
    (other : HealthPollerResult) :
    (healthPolledHostState host other).robotName =
      other.robotName.or (host.bind HostState.robotName) := rfl

section Sibling

variable {result : HealthPollerResult} {event : Action} {ip' : String}

theorem keepsHost_eq (good : result.ipIsGood) (away : ip' ≠ result.ip) (host : HostState) :
    keepsHost (.healthPolled result) ip' host =
      !decide (host.seen = false ∧ host.robotName = result.robotName ∧ host.unreachableOnBoth) := by
  simp only [keepsHost, good, Bool.true_and, isStaleHost, HostState.unreachableOnBoth,
    decide_eq_true_eq, ne_eq, away, not_false_eq_true, true_and]
  congr 1
  simp only [decide_eq_decide]
  tauto

/-- At the ip of another event, evicting first and writing first agree exactly
when the event does not rewrite a never-seen host of the good poll's robot
there. -/
theorem writtenHost_filter_comm_iff (good : result.ipIsGood) (away : ip' ≠ result.ip)
    (written : event.writtenIp = some ip') (host : Option HostState) :
    writtenHost event (host.filter (keepsHost (.healthPolled result) ip')) =
        (writtenHost event host).filter (keepsHost (.healthPolled result) ip') ↔
      ¬∃ sibling, host = some sibling ∧ sibling.seen = false ∧
        sibling.robotName = result.robotName ∧ rewritesSibling result.robotName sibling event := by
  obtain ⟨name, named⟩ := result.robotName_of_ipIsGood good
  have evicts := keepsHost_eq good away
  cases event with
  | serviceFound ip port announced =>
      cases written
      have written : ∀ host, (writtenHost (.serviceFound ip' port announced) host).filter
          (keepsHost (.healthPolled result) ip') = writtenHost (.serviceFound ip' port announced) host :=
        fun _ => by simp [writtenHost, Option.filter_some, keepsHost_of_seen, serviceFoundHostState]
      rw [written]
      cases host with
      | none => simp
      | some sibling =>
          by_cases stale : sibling.seen = false ∧ sibling.robotName = result.robotName ∧
              sibling.unreachableOnBoth
          · obtain ⟨unseen, sameRobot, down⟩ := stale
            simp only [HostState.unreachableOnBoth, decide_eq_true_eq] at down
            by_cases hit : announced = name <;>
              simp [writtenHost, Option.filter_some, evicts, unseen, sameRobot, down, rewritesSibling,
                HostState.unreachableOnBoth, serviceFoundHostState, named, hit, @eq_comm _ name]
          · have kept : (some sibling).filter (keepsHost (.healthPolled result) ip') = some sibling := by
              simpa [Option.filter_some, evicts] using stale
            simp only [not_and, Bool.not_eq_true] at stale
            simpa [kept, rewritesSibling] using fun unseen sameRobot _ => stale unseen sameRobot
  | healthPolled other =>
      cases written
      by_cases nameless : other.robotName = none
      · cases host with
        | none => simp [writtenHost, Option.filter_some, evicts, healthPolledHostState, nameless, named]
        | some sibling =>
            by_cases stale : sibling.seen = false ∧ sibling.robotName = result.robotName ∧
                sibling.unreachableOnBoth
            · obtain ⟨unseen, sameRobot, down⟩ := stale
              simp [writtenHost, Option.filter_some, evicts, unseen, sameRobot, down, rewritesSibling,
                healthPolledHostState, nameless, named]
            · simp only [not_and, Bool.not_eq_true] at stale
              simp [writtenHost, Option.filter_some, evicts, stale, rewritesSibling, nameless]
              by_cases unseen : sibling.seen = false <;>
                by_cases sameRobot : sibling.robotName = result.robotName <;> simp_all
      · obtain ⟨name', named'⟩ := Option.ne_none_iff_exists'.1 nameless
        have written : ∀ host, writtenHost (.healthPolled other) host =
            some (healthPolledHostState none other) :=
          fun host => by rw [writtenHost, healthPolledHostState_of_named named']
        simp [written, Option.filter_some, evicts, rewritesSibling, named',
          HealthPollerResult.unreachableOnBoth_of_named named']
  | initializeState => cases written
  | removeRobot => cases written

end Sibling

/-! ## Commutation -/

private theorem filter_of_forall {α : Type} {keep : α → Bool} (kept : ∀ value, keep value = true)
    (value : Option α) : value.filter keep = value := by
  cases value <;> simp [Option.filter_some, kept]

private theorem filter_comm {α : Type} (first second : α → Bool) (value : Option α) :
    (value.filter first).filter second = (value.filter second).filter first := by
  cases value with
  | none => rfl
  | some value =>
      cases kept : first value <;> cases kept' : second value <;>
        simp [Option.filter_some, kept, kept']

theorem writtenHost_filter_comm_iff_clear (hosts : ObjectMap HostState) {first second : Action}
    {ip ip' : String} (firstIp : first.writtenIp = some ip) (secondIp : second.writtenIp = some ip')
    (distinct : ip ≠ ip') :
    writtenHost second ((hosts.get ip').filter (keepsHost first ip')) =
        (writtenHost second (hosts.get ip')).filter (keepsHost first ip') ↔
      evictionInterferes hosts first second = false := by
  cases first with
  | healthPolled result =>
      cases firstIp
      by_cases good : result.ipIsGood
      · rw [writtenHost_filter_comm_iff good (Ne.symm distinct) secondIp]
        simp only [evictionInterferes, good, secondIp, Option.some_bind, Bool.true_and]
        cases hosts.get ip' <;> simp
      · have kept : ∀ host, keepsHost (.healthPolled result) ip' host = true := by
          simp [keepsHost, good]
        simp [filter_of_forall kept, evictionInterferes, good]
  | serviceFound => simp [filter_of_forall (keepsHost_serviceFound _ _ _ _), evictionInterferes]
  | initializeState => cases firstIp
  | removeRobot => cases firstIp

theorem hosts_commute_iff {state : State} {first second : Action} {ip ip' : String}
    (firstIp : first.writtenIp = some ip) (secondIp : second.writtenIp = some ip')
    (distinct : ip ≠ ip') :
    (reduce (reduce state first) second).hostsByIp.get =
        (reduce (reduce state second) first).hostsByIp.get ↔
      evictionInterferes state.hostsByIp first second = false ∧
        evictionInterferes state.hostsByIp second first = false := by
  have atSecond := writtenHost_filter_comm_iff_clear state.hostsByIp firstIp secondIp distinct
  have atFirst := writtenHost_filter_comm_iff_clear state.hostsByIp secondIp firstIp
    (Ne.symm distinct)
  have orders : ∀ key, (reduce (reduce state first) second).hostsByIp.get key =
      (reduce (reduce state second) first).hostsByIp.get key ↔
        if key = ip' then writtenHost second ((state.hostsByIp.get ip').filter (keepsHost first ip')) =
          (writtenHost second (state.hostsByIp.get ip')).filter (keepsHost first ip')
        else if key = ip then writtenHost first ((state.hostsByIp.get ip).filter (keepsHost second ip)) =
          (writtenHost first (state.hostsByIp.get ip)).filter (keepsHost second ip)
        else True := by
    intro key
    rw [get_hosts_events firstIp secondIp distinct, get_hosts_events secondIp firstIp (Ne.symm distinct)]
    by_cases atIp' : key = ip'
    · simp [atIp', Ne.symm distinct]
    · by_cases atIp : key = ip
      · simp [atIp, distinct, eq_comm]
      · simp [atIp, atIp', filter_comm]
  constructor
  · intro same
    have at' := (orders ip').1 (congrFun same ip')
    have at_ := (orders ip).1 (congrFun same ip)
    simp only [if_true, if_neg distinct] at at' at_
    exact ⟨atSecond.1 at', atFirst.1 at_⟩
  · rintro ⟨clear, clear'⟩
    funext key
    refine (orders key).2 ?_
    split
    · exact atSecond.2 clear
    · split
      · exact atFirst.2 clear'
      · trivial

private theorem or_or_comm {α : Type} {first second : Option α} (third : Option α)
    (agree : ∀ value value', first = some value → second = some value' → value = value') :
    second.or (first.or third) = first.or (second.or third) := by
  cases first with
  | none => cases second <;> rfl
  | some value =>
      cases second with
      | none => rfl
      | some value' => simp [agree value value' rfl rfl]

private theorem writtenRobot_found_polled_comm (ip : String) (port : Nat) (name key : String)
    (result : HealthPollerResult) (robot : Option RobotState) :
    writtenRobot (.healthPolled result) key (writtenRobot (.serviceFound ip port name) key robot) =
      writtenRobot (.serviceFound ip port name) key (writtenRobot (.healthPolled result) key robot) := by
  simp only [writtenRobot]
  by_cases hit : key = name
  · subst hit
    by_cases inherited : key ∈ objectPrototypeProperties
    · simp [inherited]
    · by_cases named : result.robotName = some key <;>
        simp [inherited, named, healthPolledRobotState]
      cases robot <;> simp
  · simp [hit]

theorem writtenRobot_comm (first second : Action) (key : String) (robot : Option RobotState)
    (agree : PayloadsAgree first second) :
    writtenRobot second key (writtenRobot first key robot) =
      writtenRobot first key (writtenRobot second key robot) := by
  cases first <;> cases second
  case serviceFound.healthPolled => exact writtenRobot_found_polled_comm _ _ _ _ _ _
  case healthPolled.serviceFound => exact (writtenRobot_found_polled_comm _ _ _ _ _ _).symm
  all_goals simp only [writtenRobot]
  case serviceFound.serviceFound name _ _ name' =>
    by_cases hit : key = name
    · subst hit
      by_cases hit' : key = name'
      · subst hit'
        rfl
      · simp [hit']
    · by_cases hit' : key = name'
      · subst hit'
        simp [hit]
      · simp [hit, hit']
  case healthPolled.healthPolled result result' =>
    by_cases named : result.robotName = some key <;> by_cases named' : result'.robotName = some key <;>
      simp only [named, named', if_true, if_false, Option.some_bind, healthPolledRobotState]
    obtain ⟨sameHealth, sameServerHealth⟩ := agree key named named'
    rw [or_or_comm _ sameHealth, or_or_comm _ sameServerHealth]

theorem Action.isUpdate_of_writtenIp {action : Action} (written : action.writtenIp.isSome) :
    action.isUpdate := by
  cases action <;> simp_all [Action.writtenIp, Action.isUpdate]

theorem isEqual_events_of_clear {state : State} {first second : Action} {ip ip' : String}
    (firstIp : first.writtenIp = some ip) (secondIp : second.writtenIp = some ip')
    (distinct : ip ≠ ip') (agree : PayloadsAgree first second)
    (clear : evictionInterferes state.hostsByIp first second = false)
    (clear' : evictionInterferes state.hostsByIp second first = false) :
    State.IsEqual (reduce (reduce state first) second) (reduce (reduce state second) first) := by
  have event : first.writtenIp.isSome := by simp [firstIp]
  have event' : second.writtenIp.isSome := by simp [secondIp]
  refine ⟨funext fun key => ?_, (hosts_commute_iff firstIp secondIp distinct).2 ⟨clear, clear'⟩, ?_⟩
  · simp only [get_robots_event event, get_robots_event event']
    exact writtenRobot_comm first second key _ agree
  · simp only [reduce_manualAddresses, manualAddresses_same _ _ (Action.isUpdate_of_writtenIp event),
      manualAddresses_same _ _ (Action.isUpdate_of_writtenIp event'), Reduced.value_same]

/-- Two events on distinct ips, with agreeing payloads for a common robot,
leave deep-equal states in either order exactly when neither interferes with
the other through eviction. -/
theorem events_commute (state : State) (first second : Action) (ip ip' : String)
    (firstIp : first.writtenIp = some ip) (secondIp : second.writtenIp = some ip')
    (distinct : ip ≠ ip') (agree : PayloadsAgree first second) :
    State.IsEqual (reduce (reduce state first) second) (reduce (reduce state second) first) ↔
      evictionInterferes state.hostsByIp first second = false ∧
        evictionInterferes state.hostsByIp second first = false :=
  ⟨fun equal => (hosts_commute_iff firstIp secondIp distinct).1 equal.2.1,
    fun ⟨clear, clear'⟩ => isEqual_events_of_clear firstIp secondIp distinct agree clear clear'⟩

theorem events_commute_after_stale_sibling :
    (reduce (run initialState [.initializeState (some [⟨"bot-1", none, none, ∅,
        [⟨"10.0.0.1", 31950⟩, ⟨"10.0.0.2", 31950⟩]⟩]) none,
      .healthPolled ⟨"10.0.0.2", 31950, none, none, none, none⟩])
      (.healthPolled ⟨"10.0.0.1", 31950, some ⟨"bot-1", ∅⟩, some ⟨"bot-1", ∅⟩, none,
        none⟩)).hostsByIp.get "10.0.0.2" = none ∧
    State.IsEqual
      (reduce (reduce (run initialState [.initializeState (some [⟨"bot-1", none, none, ∅,
          [⟨"10.0.0.1", 31950⟩, ⟨"10.0.0.2", 31950⟩]⟩]) none,
        .healthPolled ⟨"10.0.0.2", 31950, none, none, none, none⟩])
        (.healthPolled ⟨"10.0.0.1", 31950, some ⟨"bot-1", ∅⟩, some ⟨"bot-1", ∅⟩, none, none⟩))
        (.serviceFound "10.0.0.2" 31950 "bot-2"))
      (reduce (reduce (run initialState [.initializeState (some [⟨"bot-1", none, none, ∅,
          [⟨"10.0.0.1", 31950⟩, ⟨"10.0.0.2", 31950⟩]⟩]) none,
        .healthPolled ⟨"10.0.0.2", 31950, none, none, none, none⟩])
        (.serviceFound "10.0.0.2" 31950 "bot-2"))
        (.healthPolled ⟨"10.0.0.1", 31950, some ⟨"bot-1", ∅⟩, some ⟨"bot-1", ∅⟩, none, none⟩)) :=
  ⟨by decide, (events_commute _ _ _ "10.0.0.1" "10.0.0.2" (by rfl) (by rfl) (by decide) (by trivial)).2
    ⟨by decide, by decide⟩⟩

/-- A good poll of one address and a late unreachable result for a sibling
address of a freshly seeded robot: in one order the sibling is updated and
then evicted, in the other it survives. -/
theorem good_poll_and_late_result_do_not_commute :
    Reachable (reduce initialState (.initializeState
      (some [⟨"bot-1", none, none, ∅, [⟨"10.0.0.1", 31950⟩, ⟨"10.0.0.2", 31950⟩]⟩]) none)) ∧
    PayloadsAgree
      (.healthPolled ⟨"10.0.0.1", 31950, some ⟨"bot-1", ∅⟩, some ⟨"bot-1", ∅⟩, none, none⟩)
      (.healthPolled ⟨"10.0.0.2", 31950, none, none, none, none⟩) ∧
    ¬State.IsEqual
      (reduce (reduce (reduce initialState (.initializeState
          (some [⟨"bot-1", none, none, ∅, [⟨"10.0.0.1", 31950⟩, ⟨"10.0.0.2", 31950⟩]⟩]) none))
        (.healthPolled ⟨"10.0.0.1", 31950, some ⟨"bot-1", ∅⟩, some ⟨"bot-1", ∅⟩, none, none⟩))
        (.healthPolled ⟨"10.0.0.2", 31950, none, none, none, none⟩))
      (reduce (reduce (reduce initialState (.initializeState
          (some [⟨"bot-1", none, none, ∅, [⟨"10.0.0.1", 31950⟩, ⟨"10.0.0.2", 31950⟩]⟩]) none))
        (.healthPolled ⟨"10.0.0.2", 31950, none, none, none, none⟩))
        (.healthPolled ⟨"10.0.0.1", 31950, some ⟨"bot-1", ∅⟩, some ⟨"bot-1", ∅⟩, none, none⟩)) :=
  ⟨.step _ .initial, fun _ _ late => by simp [HealthPollerResult.robotName] at late,
    fun equal => absurd (congrFun equal.2.1 "10.0.0.2") (by decide)⟩

end Opentrons.DiscoveryClient
