import Opentrons.DiscoveryClient.Reducer

/-!
# Invariants of reachable store states

Three invariants hold in every state the store reaches from `INITIAL_STATE`.
Every stored host has the shape the reducer builds: keyed by its own ip, its
two statuses set together, each status agreeing with the error beside it, and
an unseen host never answered. Every robot is stored under its own name. And a
robot name that hosts carry but `robotsByName` lacks is carried by one host
only: the robots map loses a name only through REMOVE_ROBOT, whose guard keeps
a lone host behind. That last invariant fails for the names of
`Object.prototype`: SERVICE_FOUND reads the inherited member under such a name
and adds no robot.
-/

namespace Opentrons.DiscoveryClient

set_option autoImplicit false

/-! ## The shape of a stored host -/

def StatusMatchesError (status : Option HealthStatus) (error : Option HealthErrorResponse) :
    Prop :=
  (status = some .notOk → ∃ reply, error = some reply ∧ 400 ≤ reply.status) ∧
    (status = some .unreachable → ∀ reply, error = some reply → reply.status < 400)

structure HostState.WellFormed (key : String) (host : HostState) : Prop where
  ipIsKey : host.ip = key
  polledTogether : host.healthStatus = none ↔ host.serverHealthStatus = none
  unpolledWithoutErrors :
    host.healthStatus = none → host.healthError = none ∧ host.serverHealthError = none
  healthMatchesError : StatusMatchesError host.healthStatus host.healthError
  serverHealthMatchesError : StatusMatchesError host.serverHealthStatus host.serverHealthError
  unseenUnreachable : host.seen = false →
    host.healthStatus = host.serverHealthStatus ∧
      (host.healthStatus = none ∨ host.healthStatus = some .unreachable)

def HostsWellFormed (hosts : ObjectMap HostState) : Prop :=
  ∀ key host, hosts.get key = some host → host.WellFormed key

theorem getHealthStatus_matches {Response : Type} (response : Option Response)
    (error : Option HealthErrorResponse) :
    StatusMatchesError (some (getHealthStatus response error)) error := by
  unfold StatusMatchesError getHealthStatus
  split
  · simp
  · next reply =>
    by_cases high : 400 ≤ reply.status
    · simp [high]
    · simp only [high, if_false]
      exact ⟨by simp, fun _ reply' same => by cases same; omega⟩
  · simp

theorem makeHostState_wellFormed (ip : String) (port : Nat) (name : String) :
    (makeHostState ip port name).WellFormed ip := by
  constructor <;> simp [makeHostState, StatusMatchesError]

theorem serviceFoundHostState_wellFormed {host : Option HostState} {ip : String} (port : Nat)
    (name : String) (previous : ∀ stored, host = some stored → stored.WellFormed ip) :
    (serviceFoundHostState host ip port name).WellFormed ip := by
  cases host with
  | none => constructor <;> simp [serviceFoundHostState, StatusMatchesError]
  | some stored =>
      have formed := previous stored rfl
      by_cases same : stored.robotName = some name
      · exact ⟨rfl, by simpa [serviceFoundHostState, same] using formed.polledTogether,
          by simpa [serviceFoundHostState, same] using formed.unpolledWithoutErrors,
          by simpa [serviceFoundHostState, same] using formed.healthMatchesError,
          by simpa [serviceFoundHostState, same] using formed.serverHealthMatchesError,
          by simp [serviceFoundHostState]⟩
      · constructor <;> simp [serviceFoundHostState, same, StatusMatchesError]

theorem healthPolledHostState_wellFormed (host : Option HostState) (result : HealthPollerResult) :
    (healthPolledHostState host result).WellFormed result.ip where
  ipIsKey := rfl
  polledTogether := by simp [healthPolledHostState]
  unpolledWithoutErrors := by simp [healthPolledHostState]
  healthMatchesError := getHealthStatus_matches _ _
  serverHealthMatchesError := getHealthStatus_matches _ _
  unseenUnreachable := by
    intro unseen
    simp only [healthPolledHostState, Bool.or_eq_false_iff, bne_eq_false_iff_eq] at unseen
    simp [healthPolledHostState, unseen.1.2, unseen.2]

theorem hostsWellFormed_reduce {state : State} (action : Action)
    (formed : HostsWellFormed state.hostsByIp) : HostsWellFormed (reduce state action).hostsByIp := by
  intro key host found
  rcases get_hosts_reduce found with before | ⟨_, _, _, seeded, ipIsKey⟩ |
      ⟨port, name, _, rfl⟩ | ⟨result, _, rfl, rfl⟩
  · exact formed key host before
  · obtain ⟨robot, _, address, _, rfl⟩ := mem_initialHostStates seeded
    exact ipIsKey ▸ makeHostState_wellFormed _ _ _
  · exact serviceFoundHostState_wellFormed port name (formed key)
  · exact healthPolledHostState_wellFormed _ _

/-- Every host of a reachable state has the shape the reducer builds. -/
theorem reachable_hosts_wellFormed {state : State} (reachable : Reachable state) (key : String)
    (host : HostState) (found : state.hostsByIp.get key = some host) : host.WellFormed key := by
  induction reachable generalizing key host with
  | initial => simp [initialState] at found
  | step action _ formed => exact hostsWellFormed_reduce action formed key host found

theorem reachable_hosts_wellFormed_after_service :
    Reachable (reduce initialState (.serviceFound "10.0.0.5" 31950 "bot-1")) ∧
      (reduce initialState (.serviceFound "10.0.0.5" 31950 "bot-1")).hostsByIp.get "10.0.0.5" =
        some ⟨"10.0.0.5", 31950, some "bot-1", true, none, none, none, none⟩ ∧
      HostState.WellFormed "10.0.0.5"
        ⟨"10.0.0.5", 31950, some "bot-1", true, none, none, none, none⟩ :=
  ⟨.step _ .initial, by decide,
    reachable_hosts_wellFormed (.step (.serviceFound "10.0.0.5" 31950 "bot-1") .initial) _ _
      (by decide)⟩

/-! ## Robots under their own names -/

def RobotsKeyedByName (robots : ObjectMap RobotState) : Prop :=
  ∀ name robot, robots.get name = some robot → robot.name = name

theorem robotsKeyedByName_reduce {state : State} (action : Action)
    (keyed : RobotsKeyedByName state.robotsByName) :
    RobotsKeyedByName (reduce state action).robotsByName := by
  intro name robot found
  rw [reduce_robotsByName] at found
  cases action with
  | initializeState initialRobots _ =>
      cases initialRobots with
      | none => exact keyed name robot found
      | some _ => exact (ObjectMap.get_keyBy _ _ found).2
  | removeRobot removed =>
      rw [robots_removeRobot] at found
      split at found
      · cases found
      · exact keyed name robot found
  | serviceFound ip port announced =>
      rw [robots_serviceFound] at found
      split at found
      · next hit =>
        obtain ⟨rfl, -⟩ := hit
        cases stored : state.robotsByName.get name with
        | none => simp only [stored, Option.getD_none, Option.some.injEq] at found; rw [← found]
        | some old =>
            simp only [stored, Option.getD_some, Option.some.injEq] at found
            exact found ▸ keyed name old stored
      · exact keyed name robot found
  | healthPolled result =>
      rw [robots_healthPolled] at found
      split at found
      · cases found; rfl
      · exact keyed name robot found

/-- Every robot of a reachable state is stored under its own name. -/
theorem reachable_robots_named {state : State} (reachable : Reachable state) (name : String)
    (robot : RobotState) (found : state.robotsByName.get name = some robot) : robot.name = name := by
  induction reachable generalizing name robot with
  | initial => simp [initialState] at found
  | step action _ keyed => exact robotsKeyedByName_reduce action keyed name robot found

theorem reachable_robots_named_after_service :
    Reachable (reduce initialState (.serviceFound "10.0.0.5" 31950 "bot-1")) ∧
      (reduce initialState (.serviceFound "10.0.0.5" 31950 "bot-1")).robotsByName.get "bot-1" =
        some ⟨"bot-1", none, none, ∅⟩ ∧
      (⟨"bot-1", none, none, ∅⟩ : RobotState).name = "bot-1" :=
  ⟨.step _ .initial, by decide,
    reachable_robots_named (.step (.serviceFound "10.0.0.5" 31950 "bot-1") .initial) _ _
      (by decide)⟩

/-! ## Hosts without a robot name -/

def NamelessUnanswered (hosts : ObjectMap HostState) : Prop :=
  ∀ ip host, hosts.get ip = some host → host.robotName = none →
    (∃ status, host.healthStatus = some status ∧ status ≠ .ok) ∧
      ∃ status, host.serverHealthStatus = some status ∧ status ≠ .ok

theorem namelessUnanswered_reduce {state : State} (action : Action)
    (unanswered : NamelessUnanswered state.hostsByIp) :
    NamelessUnanswered (reduce state action).hostsByIp := by
  intro ip host found nameless
  rcases get_hosts_reduce found with before | ⟨_, _, _, seeded, _⟩ | ⟨port, name, _, rfl⟩ |
      ⟨result, _, _, rfl⟩
  · exact unanswered ip host before nameless
  · obtain ⟨robot, _, address, _, rfl⟩ := mem_initialHostStates seeded
    cases nameless
  · cases nameless
  · simp only [healthPolledHostState, Option.or_eq_none] at nameless
    obtain ⟨noHealth, noServerHealth⟩ := HealthPollerResult.robotName_eq_none.1 nameless.1
    refine ⟨⟨_, rfl, fun ok => ?_⟩, ⟨_, rfl, fun ok => ?_⟩⟩
    · simpa [noHealth] using (getHealthStatus_eq_ok _ _).1 ok
    · simpa [noServerHealth] using (getHealthStatus_eq_ok _ _).1 ok

/-- In every reachable state a host that the store cannot attribute to a robot
has been polled and answered on neither endpoint: every host that ever
answered a health check carries a robot name. -/
theorem reachable_nameless_hosts_unanswered {state : State} (reachable : Reachable state)
    (ip : String) (host : HostState) (found : state.hostsByIp.get ip = some host)
    (nameless : host.robotName = none) :
    (∃ status, host.healthStatus = some status ∧ status ≠ .ok) ∧
      ∃ status, host.serverHealthStatus = some status ∧ status ≠ .ok := by
  induction reachable generalizing ip host with
  | initial => simp [initialState] at found
  | step action _ unanswered =>
      exact namelessUnanswered_reduce action (fun ip host => unanswered ip host) ip host found nameless

theorem reachable_nameless_hosts_unanswered_after_failed_poll :
    Reachable (reduce initialState (.healthPolled ⟨"10.0.0.9", 31950, none, none, none, none⟩)) ∧
      (reduce initialState (.healthPolled ⟨"10.0.0.9", 31950, none, none, none, none⟩)).hostsByIp.get
          "10.0.0.9" =
        some ⟨"10.0.0.9", 31950, none, false, some .unreachable, some .unreachable, none, none⟩ ∧
      (∃ status, some HealthStatus.unreachable = some status ∧ status ≠ .ok) ∧
        ∃ status, some HealthStatus.unreachable = some status ∧ status ≠ .ok :=
  ⟨.step _ .initial, by decide,
    reachable_nameless_hosts_unanswered
      (.step (.healthPolled ⟨"10.0.0.9", 31950, none, none, none, none⟩) .initial) "10.0.0.9"
      ⟨"10.0.0.9", 31950, none, false, some .unreachable, some .unreachable, none, none⟩
      (by decide) rfl⟩

/-! ## Robot names carried by hosts -/

def Carries (hosts : ObjectMap HostState) (name ip : String) : Prop :=
  ∃ host, hosts.get ip = some host ∧ host.robotName = some name

/-- Every robot name a host carries is a key of `robotsByName`, the names of
`Object.prototype` apart. -/
def NamesKnown (state : State) : Prop :=
  ∀ name ∉ objectPrototypeProperties, ∀ ip, Carries state.hostsByIp name ip →
    (state.robotsByName.get name).isSome

/-- A robot name `robotsByName` lacks is carried by one host at most, the
names of `Object.prototype` apart. -/
def DanglingSingle (state : State) : Prop :=
  ∀ name ∉ objectPrototypeProperties, state.robotsByName.get name = none →
    ∀ ip ip', Carries state.hostsByIp name ip → Carries state.hostsByIp name ip' → ip = ip'

theorem robots_isSome_reduce (state : State) (action : Action) (name : String)
    (known : (state.robotsByName.get name).isSome) :
    ((reduce state action).robotsByName.get name).isSome ∨ action = .removeRobot name ∨
      ∃ initialRobots manualAddresses,
        action = .initializeState (some initialRobots) manualAddresses := by
  rw [reduce_robotsByName]
  cases action with
  | initializeState initialRobots manualAddresses =>
      cases initialRobots with
      | none => exact .inl known
      | some initialRobots => exact .inr (.inr ⟨initialRobots, manualAddresses, rfl⟩)
  | removeRobot removed =>
      rw [robots_removeRobot]
      by_cases hit : name = removed
      · exact .inr (.inl (by rw [hit]))
      · exact .inl (by simpa [hit] using known)
  | serviceFound ip port found =>
      rw [robots_serviceFound]
      split <;> simp_all
  | healthPolled result =>
      rw [robots_healthPolled]
      split <;> simp_all

theorem namesKnown_initializeState (state : State) (initialRobots : List DiscoveryClientRobot)
    (manualAddresses : Option (List Address)) :
    NamesKnown (reduce state (.initializeState (some initialRobots) manualAddresses)) := by
  rintro name - ip ⟨host, found, named⟩
  rw [reduce_hostsByIp] at found
  simp only [hostsByIpReducer, Reduced.value_fresh] at found
  obtain ⟨robot, listed, address, -, rfl⟩ := mem_initialHostStates (ObjectMap.get_keyBy _ _ found).1
  simp only [makeHostState, Option.some.injEq] at named
  rw [reduce_robotsByName, ← named]
  exact ObjectMap.isSome_get_keyBy _ RobotState.name (List.mem_map_of_mem _ listed)

theorem carries_reduce {state : State} {action : Action} {name ip : String}
    (ordinaryName : name ∉ objectPrototypeProperties)
    (carries : Carries (reduce state action).hostsByIp name ip) :
    Carries state.hostsByIp name ip ∨ ((reduce state action).robotsByName.get name).isSome := by
  obtain ⟨host, found, named⟩ := carries
  rcases get_hosts_reduce found with before | ⟨initialRobots, manualAddresses, rfl, -⟩ |
      ⟨port, robotName, rfl, rfl⟩ | ⟨result, rfl, rfl, rfl⟩
  · exact .inl ⟨host, before, named⟩
  · exact .inr (namesKnown_initializeState state initialRobots manualAddresses name ordinaryName ip
      ⟨host, found, named⟩)
  · simp only [serviceFoundHostState, Option.some.injEq] at named
    right
    rw [reduce_robotsByName, robots_serviceFound]
    simp [named, ordinaryName]
  · cases polled : result.robotName with
    | none =>
        simp only [healthPolledHostState, polled, Option.none_or, Option.bind_eq_some] at named
        obtain ⟨old, stored, oldName⟩ := named
        exact .inl ⟨old, stored, oldName⟩
    | some polledName =>
        simp only [healthPolledHostState, polled, Option.or_some, Option.some.injEq] at named
        right
        rw [reduce_robotsByName, robots_healthPolled]
        simp [polled, named]

theorem namesKnown_reduce {state : State} {action : Action}
    (notRemoval : ∀ name, action ≠ .removeRobot name) (known : NamesKnown state) :
    NamesKnown (reduce state action) := by
  intro name ordinaryName ip carries
  rcases carries_reduce ordinaryName carries with before | after
  · rcases robots_isSome_reduce state action name (known name ordinaryName ip before) with
        after | removal | ⟨initialRobots, manualAddresses, rfl⟩
    · exact after
    · exact absurd removal (notRemoval name)
    · exact namesKnown_initializeState state initialRobots manualAddresses name ordinaryName ip carries
  · exact after

private theorem eq_of_mem_of_length_le_one {items : List String} {first second : String}
    (short : items.length ≤ 1) (firstMember : first ∈ items) (secondMember : second ∈ items) :
    first = second := by
  match items, short with
  | [_], _ => simp_all

theorem danglingSingle_removeRobot (state : State) (removed : String) (ip ip' : String)
    (carries : Carries (reduce state (.removeRobot removed)).hostsByIp removed ip)
    (carries' : Carries (reduce state (.removeRobot removed)).hostsByIp removed ip') : ip = ip' := by
  obtain ⟨host, found, named⟩ := carries
  obtain ⟨host', found', named'⟩ := carries'
  rw [reduce_hostsByIp] at found found'
  simp only [hostsByIpReducer] at found found'
  split at found
  · rw [Reduced.value_fresh, ObjectMap.get_omit] at found
    split at found
    · cases found
    · next kept =>
      exact absurd ((state.hostsByIp.mem_keysWhere _ ip).2 ⟨host, found, by simp [named]⟩) kept
  · next few =>
    rw [if_neg few, Reduced.value_same] at found'
    rw [Reduced.value_same] at found
    exact eq_of_mem_of_length_le_one (Nat.le_of_not_lt few)
      ((state.hostsByIp.mem_keysWhere _ ip).2 ⟨host, found, by simp [named]⟩)
      ((state.hostsByIp.mem_keysWhere _ ip').2 ⟨host', found', by simp [named']⟩)

theorem danglingSingle_reduce {state : State} (action : Action) (single : DanglingSingle state) :
    DanglingSingle (reduce state action) := by
  intro name ordinaryName dangling ip ip' carries carries'
  have unknown : ¬((reduce state action).robotsByName.get name).isSome := by simp [dangling]
  by_cases removal : action = .removeRobot name
  · subst removal
    exact danglingSingle_removeRobot state name ip ip' carries carries'
  · by_cases seeding : ∃ initialRobots manualAddresses,
        action = .initializeState (some initialRobots) manualAddresses
    · obtain ⟨initialRobots, manualAddresses, rfl⟩ := seeding
      exact absurd (namesKnown_initializeState state initialRobots manualAddresses name ordinaryName
        ip carries) unknown
    · have before : state.robotsByName.get name = none := by
        cases stored : state.robotsByName.get name with
        | none => rfl
        | some robot =>
            rcases robots_isSome_reduce state action name (by simp [stored]) with
              after | removal' | seeding'
            · exact absurd after unknown
            · exact absurd removal' removal
            · exact absurd seeding' seeding
      exact single name ordinaryName before ip ip'
        ((carries_reduce ordinaryName carries).resolve_right unknown)
        ((carries_reduce ordinaryName carries').resolve_right unknown)

theorem reachable_danglingSingle {state : State} (reachable : Reachable state) :
    DanglingSingle state := by
  induction reachable with
  | initial => intro name _ _ ip _ carries; simp [Carries, initialState] at carries
  | step action _ single => exact danglingSingle_reduce action single

/-- Outside the names of `Object.prototype`, dangling robot names are carried
by exactly one host in every reachable state, and only REMOVE_ROBOT can leave a
carried name without its robot. -/
theorem dangling_names_single :
    (∀ state, Reachable state → ∀ name ∉ objectPrototypeProperties,
      (∃ ip, Carries state.hostsByIp name ip) → name ∉ state.robotsByName.keys →
        ∃! ip, Carries state.hostsByIp name ip) ∧
    (∀ state action, (∀ name, action ≠ .removeRobot name) → NamesKnown state →
      NamesKnown (reduce state action)) := by
  refine ⟨fun state reachable name ordinaryName ⟨ip, carries⟩ absent =>
      ⟨ip, carries, fun ip' carries' => ?_⟩,
    fun _ _ notRemoval known => namesKnown_reduce notRemoval known⟩
  exact reachable_danglingSingle reachable name ordinaryName
    ((state.robotsByName.get_eq_none_iff name).2 absent) ip' ip carries' carries

theorem dangling_names_single_after_removal :
    (∃! ip, Carries (reduce (reduce initialState (.serviceFound "10.0.0.5" 31950 "bot-1"))
      (.removeRobot "bot-1")).hostsByIp "bot-1" ip) ∧
    NamesKnown (reduce initialState (.serviceFound "10.0.0.5" 31950 "bot-1")) :=
  ⟨dangling_names_single.1 _ (.step (.removeRobot "bot-1") (.step _ .initial)) "bot-1" (by decide)
      ⟨"10.0.0.5", ⟨⟨"10.0.0.5", 31950, some "bot-1", true, none, none, none, none⟩, by decide, rfl⟩⟩
      (by decide),
    dangling_names_single.2 initialState _ (fun _ => nofun)
      (fun _ _ _ ⟨_, found, _⟩ => by simp [initialState] at found)⟩

/-- Two mDNS announcements of a robot named `constructor` at two ips, from
`INITIAL_STATE`: SERVICE_FOUND finds `Object.prototype.constructor` under the
name and adds no robot, so after the first announcement a host carries a name
that is not a key of `robotsByName`, and after the second two hosts do. -/
theorem constructor_announced_twice_dangles :
    Carries (reduce initialState (.serviceFound "10.0.0.1" 31950 "constructor")).hostsByIp
        "constructor" "10.0.0.1" ∧
      "constructor" ∉ (reduce initialState
        (.serviceFound "10.0.0.1" 31950 "constructor")).robotsByName.keys ∧
      Reachable (reduce (reduce initialState (.serviceFound "10.0.0.1" 31950 "constructor"))
        (.serviceFound "10.0.0.2" 31950 "constructor")) ∧
      Carries (reduce (reduce initialState (.serviceFound "10.0.0.1" 31950 "constructor"))
        (.serviceFound "10.0.0.2" 31950 "constructor")).hostsByIp "constructor" "10.0.0.1" ∧
      Carries (reduce (reduce initialState (.serviceFound "10.0.0.1" 31950 "constructor"))
        (.serviceFound "10.0.0.2" 31950 "constructor")).hostsByIp "constructor" "10.0.0.2" ∧
      "constructor" ∉ (reduce (reduce initialState (.serviceFound "10.0.0.1" 31950 "constructor"))
        (.serviceFound "10.0.0.2" 31950 "constructor")).robotsByName.keys :=
  ⟨⟨⟨"10.0.0.1", 31950, some "constructor", true, none, none, none, none⟩, by decide, rfl⟩,
    by decide, .step _ (.step _ .initial),
    ⟨⟨"10.0.0.1", 31950, some "constructor", true, none, none, none, none⟩, by decide, rfl⟩,
    ⟨⟨"10.0.0.2", 31950, some "constructor", true, none, none, none, none⟩, by decide, rfl⟩,
    by decide⟩

end Opentrons.DiscoveryClient
