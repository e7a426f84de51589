import Opentrons.DiscoveryClient.NoChange
import Opentrons.DiscoveryClient.Selectors

/-!
# The discovery client

A transcription of `createDiscoveryClient`. The client owns the store and
drives two collaborators, the health poller and the mDNS browser; what it does
to them and to its consumer is the list of calls it makes. The selectors are
parameters, any functions of the store state, and `!==` on their results is
inequality of those results. The listener `start` subscribes closes over that
call's `prevAddrs` and `prevRobots` and keeps updating them after `start`
returns, so they live in the listener record.
-/

namespace Opentrons.DiscoveryClient

set_option autoImplicit false

structure DiscoveryClientConfig where
  healthPollInterval : Option Nat
  initialRobots : Option (List DiscoveryClientRobot)
  manualAddresses : Option (List Address)

/-- A call the client makes on a collaborator or on its consumer. -/
inductive Effect (Addresses Robots : Type) where
  | healthPollerStart (list : Addresses) (interval : Option Nat)
  | healthPollerStop
  | mdnsBrowserStart
  | mdnsBrowserStop
  | onListChange (robots : Robots)

/-- What reaches the client: its own methods and its collaborators' callbacks. -/
inductive ClientCall where
  | start (config : DiscoveryClientConfig)
  | stop
  | removeRobot (name : String)
  | onService (ip : String) (port : Nat) (name : String)
  | onPollResult (result : HealthPollerResult)

structure Listener (Addresses Robots : Type) where
  prevAddrs : Addresses
  prevRobots : Robots

/-- The store state, the store's subscribed listeners by subscription, and the
client's `unsubscribe`, here the subscription it ends. -/
structure Client (Addresses Robots : Type) where
  state : State
  listeners : List (Nat × Listener Addresses Robots)
  nextSubscription : Nat
  unsubscribe : Option Nat

section Client

variable {Addresses Robots : Type} [DecidableEq Addresses] [DecidableEq Robots]
variable (getAddresses : State → Addresses) (getRobots : State → Robots)

def initialClient : Client Addresses Robots := ⟨initialState, [], 0, none⟩

def Listener.run (state : State) (listener : Listener Addresses Robots) :
    Listener Addresses Robots × List (Effect Addresses Robots) :=
  let addrs := getAddresses state
  let robots := getRobots state
  (⟨addrs, robots⟩,
    (if addrs ≠ listener.prevAddrs then [.healthPollerStart addrs none] else []) ++
      (if robots ≠ listener.prevRobots then [.onListChange robots] else []))

@[simp] theorem Listener.run_fst (state : State) (listener : Listener Addresses Robots) :
    (Listener.run getAddresses getRobots state listener).1 = ⟨getAddresses state, getRobots state⟩ :=
  rfl

/-- Redux `dispatch`: reduce, then run every subscribed listener in order. -/
def Client.dispatch (client : Client Addresses Robots) (action : Action) :
    Client Addresses Robots × List (Effect Addresses Robots) :=
  let state := reduce client.state action
  let ran := client.listeners.map fun subscription =>
    (subscription.1, Listener.run getAddresses getRobots state subscription.2)
  ({ client with state := state, listeners := ran.map fun run => (run.1, run.2.1) },
    ran.flatMap fun run => run.2.2)

def Client.start (client : Client Addresses Robots) (config : DiscoveryClientConfig) :
    Client Addresses Robots × List (Effect Addresses Robots) :=
  let dispatched := client.dispatch getAddresses getRobots
    (.initializeState config.initialRobots config.manualAddresses)
  let client := dispatched.1
  let prevAddrs := getAddresses client.state
  let prevRobots := getRobots client.state
  let effects := dispatched.2 ++
    [.healthPollerStart prevAddrs config.healthPollInterval, .mdnsBrowserStart]
  match client.unsubscribe with
  | some _ => (client, effects)
  | none =>
      ({ client with
          listeners := client.listeners ++ [(client.nextSubscription, ⟨prevAddrs, prevRobots⟩)]
          nextSubscription := client.nextSubscription + 1
          unsubscribe := some client.nextSubscription }, effects)

def Client.stop (client : Client Addresses Robots) :
    Client Addresses Robots × List (Effect Addresses Robots) :=
  let effects := [.mdnsBrowserStop, .healthPollerStop]
  match client.unsubscribe with
  | some subscription =>
      ({ client with
          listeners := client.listeners.filter fun listener => listener.1 ≠ subscription
          unsubscribe := none }, effects)
  | none => (client, effects)

def Client.call (client : Client Addresses Robots) :
    ClientCall → Client Addresses Robots × List (Effect Addresses Robots)
  | .start config => client.start getAddresses getRobots config
  | .stop => client.stop
  | .removeRobot name => client.dispatch getAddresses getRobots (.removeRobot name)
  | .onService ip port name => client.dispatch getAddresses getRobots (.serviceFound ip port name)
  | .onPollResult result => client.dispatch getAddresses getRobots (.healthPolled result)

/-! ## What the collaborators hold -/

/-- The list of the latest `healthPoller.start`, and the latest of the lists
passed to `onListChange` and the baselines `start` captured. -/
structure Observed (Addresses Robots : Type) where
  polled : Option Addresses
  reported : Option Robots

def Observed.record (observed : Observed Addresses Robots) :
    Effect Addresses Robots → Observed Addresses Robots
  | .healthPollerStart list _ => { observed with polled := some list }
  | .onListChange robots => { observed with reported := some robots }
  | _ => observed

def ClientCall.started (running : Bool) : ClientCall → Bool
  | .start _ => true
  | .stop => false
  | _ => running

def observe (current : Client Addresses Robots × Observed Addresses Robots) (call : ClientCall) :
    Client Addresses Robots × Observed Addresses Robots :=
  let called := current.1.call getAddresses getRobots call
  let observed := called.2.foldl Observed.record current.2
  (called.1, match call with
    | .start _ => { observed with reported := some (getRobots called.1.state) }
    | _ => observed)

def runClient (calls : List ClientCall) : Client Addresses Robots × Observed Addresses Robots :=
  calls.foldl (observe getAddresses getRobots) (initialClient, ⟨none, none⟩)

def startedLast (calls : List ClientCall) : Bool := calls.foldl ClientCall.started false

/-- The bookkeeping of a client: subscribed exactly while started, by one
listener that saw the current state, with the collaborators holding the
current lists while started. -/
structure ClientInvariant (client : Client Addresses Robots) (observed : Observed Addresses Robots)
    (running : Bool) : Prop where
  subscribedWhileRunning : client.unsubscribe.isSome = running
  unsubscribedAlone : client.unsubscribe = none → client.listeners = []
  subscribedOne : ∀ subscription, client.unsubscribe = some subscription →
    client.listeners = [(subscription, ⟨getAddresses client.state, getRobots client.state⟩)]
  polledCurrent : running → observed.polled = some (getAddresses client.state)
  reportedCurrent : running → observed.reported = some (getRobots client.state)

omit [DecidableEq Addresses] [DecidableEq Robots] in
theorem ClientInvariant.listeners_eq {client : Client Addresses Robots}
    {observed : Observed Addresses Robots} {running : Bool}
    (invariant : ClientInvariant getAddresses getRobots client observed running) :
    client.listeners = client.unsubscribe.toList.map fun subscription =>
      (subscription, ⟨getAddresses client.state, getRobots client.state⟩) := by
  cases subscribed : client.unsubscribe with
  | none => simp [invariant.unsubscribedAlone subscribed]
  | some subscription => simp [invariant.subscribedOne subscription subscribed]

theorem ClientInvariant.dispatch_effects {client : Client Addresses Robots}
    {observed : Observed Addresses Robots} {running : Bool}
    (invariant : ClientInvariant getAddresses getRobots client observed running) (action : Action) :
    (client.dispatch getAddresses getRobots action).2 =
      if running then
        (Listener.run getAddresses getRobots (reduce client.state action)
          ⟨getAddresses client.state, getRobots client.state⟩).2
      else [] := by
  rw [Client.dispatch, invariant.listeners_eq, ← invariant.subscribedWhileRunning]
  cases client.unsubscribe <;> simp

theorem Client.start_effects (client : Client Addresses Robots) (config : DiscoveryClientConfig) :
    (client.start getAddresses getRobots config).2 =
      (client.dispatch getAddresses getRobots
          (.initializeState config.initialRobots config.manualAddresses)).2 ++
        [.healthPollerStart (getAddresses (reduce client.state
            (.initializeState config.initialRobots config.manualAddresses)))
          config.healthPollInterval, .mdnsBrowserStart] := by
  unfold Client.start
  dsimp only
  split <;> rfl

theorem record_listener_run (state : State) (listener : Listener Addresses Robots)
    (observed : Observed Addresses Robots) (polled : observed.polled = some listener.prevAddrs)
    (reported : observed.reported = some listener.prevRobots) :
    ((Listener.run getAddresses getRobots state listener).2.foldl Observed.record observed).polled =
        some (getAddresses state) ∧
      ((Listener.run getAddresses getRobots state listener).2.foldl Observed.record
        observed).reported = some (getRobots state) := by
  unfold Listener.run
  by_cases addrs : getAddresses state = listener.prevAddrs <;>
    by_cases robots : getRobots state = listener.prevRobots <;>
    simp [addrs, robots, Observed.record, polled, reported]

theorem invariant_dispatch {client : Client Addresses Robots} {observed : Observed Addresses Robots}
    {running : Bool} (invariant : ClientInvariant getAddresses getRobots client observed running)
    (action : Action) :
    ClientInvariant getAddresses getRobots (client.dispatch getAddresses getRobots action).1
      ((client.dispatch getAddresses getRobots action).2.foldl Observed.record observed) running := by
  have listeners := invariant.listeners_eq
  cases subscribed : client.unsubscribe with
  | none =>
      obtain rfl : running = false := by simpa [subscribed] using invariant.subscribedWhileRunning.symm
      constructor <;> simp [Client.dispatch, listeners, subscribed]
  | some subscription =>
      obtain rfl : running = true := by simpa [subscribed] using invariant.subscribedWhileRunning.symm
      obtain ⟨polled, reported⟩ := record_listener_run getAddresses getRobots
        (reduce client.state action) ⟨getAddresses client.state, getRobots client.state⟩ observed
        (invariant.polledCurrent rfl) (invariant.reportedCurrent rfl)
      constructor <;> simp [Client.dispatch, listeners, subscribed, polled, reported]

theorem invariant_start {client : Client Addresses Robots} {observed : Observed Addresses Robots}
    {running : Bool} (invariant : ClientInvariant getAddresses getRobots client observed running)
    (config : DiscoveryClientConfig) :
    ClientInvariant getAddresses getRobots (observe getAddresses getRobots (client, observed)
      (.start config)).1 (observe getAddresses getRobots (client, observed) (.start config)).2 true := by
  have dispatched := invariant_dispatch getAddresses getRobots invariant
    (.initializeState config.initialRobots config.manualAddresses)
  simp only [observe, Client.call, Client.start]
  generalize client.dispatch getAddresses getRobots
    (.initializeState config.initialRobots config.manualAddresses) = result at dispatched ⊢
  obtain ⟨after, notified⟩ := result
  have listeners : after.listeners = _ := dispatched.listeners_eq
  cases subscribed : after.unsubscribe <;> constructor <;>
    simp [subscribed, listeners, Observed.record]

theorem invariant_stop {client : Client Addresses Robots} {observed : Observed Addresses Robots}
    {running : Bool} (invariant : ClientInvariant getAddresses getRobots client observed running) :
    ClientInvariant getAddresses getRobots (observe getAddresses getRobots (client, observed) .stop).1
      (observe getAddresses getRobots (client, observed) .stop).2 false := by
  simp only [observe, Client.call, Client.stop]
  have listeners := invariant.listeners_eq
  cases subscribed : client.unsubscribe <;> constructor <;> simp [subscribed, listeners]

theorem invariant_observe {client : Client Addresses Robots} {observed : Observed Addresses Robots}
    {running : Bool} (invariant : ClientInvariant getAddresses getRobots client observed running)
    (call : ClientCall) :
    ClientInvariant getAddresses getRobots (observe getAddresses getRobots (client, observed) call).1
      (observe getAddresses getRobots (client, observed) call).2 (call.started running) := by
  cases call with
  | start config => exact invariant_start getAddresses getRobots invariant config
  | stop => exact invariant_stop getAddresses getRobots invariant
  | removeRobot name => exact invariant_dispatch getAddresses getRobots invariant _
  | onService ip port name => exact invariant_dispatch getAddresses getRobots invariant _
  | onPollResult result => exact invariant_dispatch getAddresses getRobots invariant _

theorem invariant_runClient (calls : List ClientCall) :
    ClientInvariant getAddresses getRobots (runClient getAddresses getRobots calls).1
      (runClient getAddresses getRobots calls).2 (startedLast calls) := by
  suffices ∀ (current : Client Addresses Robots × Observed Addresses Robots) (running : Bool),
      ClientInvariant getAddresses getRobots current.1 current.2 running →
      ClientInvariant getAddresses getRobots (calls.foldl (observe getAddresses getRobots) current).1
        (calls.foldl (observe getAddresses getRobots) current).2
        (calls.foldl ClientCall.started running) from
    this _ false (by constructor <;> simp [initialClient])
  induction calls with
  | nil => exact fun _ _ invariant => invariant
  | cons call rest ih =>
      exact fun current running invariant => ih _ _ (invariant_observe getAddresses getRobots invariant call)

/-- After any history of calls and store events the client has one store
listener exactly when its latest lifecycle call was `start`, and while it runs
the poller holds the current poll list and the consumer the current robots. -/
theorem client_tracks_lists (calls : List ClientCall) :
    (runClient getAddresses getRobots calls).1.listeners.length ≤ 1 ∧
      ((runClient getAddresses getRobots calls).1.listeners ≠ [] ↔ startedLast calls) ∧
      (startedLast calls →
        (runClient getAddresses getRobots calls).2.polled =
            some (getAddresses (runClient getAddresses getRobots calls).1.state) ∧
          (runClient getAddresses getRobots calls).2.reported =
            some (getRobots (runClient getAddresses getRobots calls).1.state)) := by
  have invariant := invariant_runClient getAddresses getRobots calls
  refine ⟨?_, ?_, fun running => ⟨invariant.polledCurrent running, invariant.reportedCurrent running⟩⟩
  all_goals
    simp only [invariant.listeners_eq, ← invariant.subscribedWhileRunning]
    cases (runClient getAddresses getRobots calls).1.unsubscribe <;> simp

/-- While the client runs, every dispatch restarts the poller on the new poll
list, without interval, exactly when that list changed, and then hands the
consumer the new robot list exactly when that changed; a stopped client calls
neither. -/
theorem dispatch_notifies_on_change (calls : List ClientCall) (action : Action) :
    ((runClient getAddresses getRobots calls).1.dispatch getAddresses getRobots action).2 =
      if startedLast calls then
        (if getAddresses (reduce (runClient getAddresses getRobots calls).1.state action) ≠
            getAddresses (runClient getAddresses getRobots calls).1.state then
          [.healthPollerStart
            (getAddresses (reduce (runClient getAddresses getRobots calls).1.state action)) none]
        else []) ++
        (if getRobots (reduce (runClient getAddresses getRobots calls).1.state action) ≠
            getRobots (runClient getAddresses getRobots calls).1.state then
          [.onListChange (getRobots (reduce (runClient getAddresses getRobots calls).1.state action))]
        else [])
      else [] :=
  (invariant_runClient getAddresses getRobots calls).dispatch_effects getAddresses getRobots action

def pollerStarts (effects : List (Effect Addresses Robots)) : List (Addresses × Option Nat) :=
  effects.filterMap fun
    | .healthPollerStart list interval => some (list, interval)
    | _ => none

theorem start_pollerStarts {client : Client Addresses Robots} {observed : Observed Addresses Robots}
    {running : Bool} (invariant : ClientInvariant getAddresses getRobots client observed running)
    (config : DiscoveryClientConfig) :
    pollerStarts (client.start getAddresses getRobots config).2 =
      (if running ∧ getAddresses (reduce client.state
            (.initializeState config.initialRobots config.manualAddresses)) ≠
          getAddresses client.state then
        [(getAddresses (reduce client.state
          (.initializeState config.initialRobots config.manualAddresses)), none)] else []) ++
        [(getAddresses (reduce client.state
          (.initializeState config.initialRobots config.manualAddresses)),
          config.healthPollInterval)] := by
  rw [Client.start_effects, invariant.dispatch_effects]
  cases running
  · simp [pollerStarts]
  · by_cases changed : getAddresses (reduce client.state
        (.initializeState config.initialRobots config.manualAddresses)) = getAddresses client.state <;>
      by_cases robots : getRobots (reduce client.state
        (.initializeState config.initialRobots config.manualAddresses)) = getRobots client.state <;>
      simp [Listener.run, pollerStarts, changed, robots]

/-- `start` after any history ends by starting the poller on the poll list
after initialization with the configured interval. On a running client the
listener of the earlier `start` runs during initialization and first restarts
the poller, without interval, exactly when initialization changed the list. -/
theorem start_restarts_poller (calls : List ClientCall) (config : DiscoveryClientConfig) :
    pollerStarts ((runClient getAddresses getRobots calls).1.start getAddresses getRobots config).2 =
      (if startedLast calls ∧
          getAddresses (reduce (runClient getAddresses getRobots calls).1.state
            (.initializeState config.initialRobots config.manualAddresses)) ≠
          getAddresses (runClient getAddresses getRobots calls).1.state then
        [(getAddresses (reduce (runClient getAddresses getRobots calls).1.state
          (.initializeState config.initialRobots config.manualAddresses)), none)] else []) ++
        [(getAddresses (reduce (runClient getAddresses getRobots calls).1.state
          (.initializeState config.initialRobots config.manualAddresses)),
          config.healthPollInterval)] :=
  start_pollerStarts getAddresses getRobots (invariant_runClient getAddresses getRobots calls) config

end Client

theorem client_tracks_lists_after_start :
    (runClient getAddresses getRobotStates [.start ⟨none, none, none⟩]).2.polled =
      some (getAddresses (runClient getAddresses getRobotStates [.start ⟨none, none, none⟩]).1.state) :=
  ((client_tracks_lists getAddresses getRobotStates [.start ⟨none, none, none⟩]).2.2 rfl).1

/-- Restarting a running client with another manual address starts the poller
twice. -/
theorem restart_with_new_manual_address_starts_poller_twice :
    (pollerStarts ((runClient getAddresses getRobotStates
      [.start ⟨none, none, some [⟨"10.0.0.5", 31950⟩]⟩]).1.start getAddresses getRobotStates
        ⟨none, none, some [⟨"10.0.0.6", 31950⟩]⟩).2).length = 2 := by
  decide

end Opentrons.DiscoveryClient
