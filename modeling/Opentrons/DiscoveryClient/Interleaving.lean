import Opentrons.DiscoveryClient.Commute
import Opentrons.DiscoveryClient.Observation

/-!
# Concurrent store events in any order

The health poller checks all addresses at once and the mDNS browser reports
services as they come, so a batch of SERVICE_FOUND and HEALTH_POLLED actions
reaches the store in whatever order the network delivers it. When the events
concern pairwise distinct ips, report agreeing payloads for a common robot,
and no two of them interfere through eviction, every delivery order leaves a
deep-equal store. The one-swap case is the
per-key commutation of two events; deep equality is carried along the rest of
the run by the congruence of the reducer.
-/

namespace Opentrons.DiscoveryClient

set_option autoImplicit false

/-- A batch of concurrent store events, as seen from the state it starts in. -/
structure ConcurrentEvents (state : State) (events : List Action) : Prop where
  allEvents : ∀ event ∈ events, event.writtenIp.isSome
  distinctIps : (events.map Action.writtenIp).Nodup
  payloadsAgree : ∀ first ∈ events, ∀ second ∈ events, PayloadsAgree first second
  noEviction : ∀ first ∈ events, ∀ second ∈ events,
    evictionInterferes state.hostsByIp first second = false

theorem evictionInterferes_of_reduce {state : State} {event first second : Action} {ip : String}
    (written : event.writtenIp = some ip) (away : second.writtenIp ≠ some ip)
    (interferes : evictionInterferes (reduce state event).hostsByIp first second) :
    evictionInterferes state.hostsByIp first second := by
  cases first with
  | healthPolled result =>
      cases secondIp : second.writtenIp with
      | none => simp [evictionInterferes, secondIp] at interferes
      | some ip' =>
          have apart : ip' ≠ ip := fun same => away (by rw [secondIp, same])
          simp only [evictionInterferes, secondIp, Option.some_bind, get_hosts_event written,
            if_neg apart] at interferes ⊢
          cases found : state.hostsByIp.get ip' with
          | none => simp [found] at interferes
          | some host => cases kept : keepsHost event ip' host <;> simp_all [Option.filter_some]
  | serviceFound => simp [evictionInterferes] at interferes
  | initializeState => simp [evictionInterferes] at interferes
  | removeRobot => simp [evictionInterferes] at interferes

theorem ConcurrentEvents.perm {state : State} {events events' : List Action}
    (batch : ConcurrentEvents state events) (permuted : events.Perm events') :
    ConcurrentEvents state events' where
  allEvents event member := batch.allEvents event (permuted.mem_iff.2 member)
  distinctIps := (permuted.map _).nodup_iff.1 batch.distinctIps
  payloadsAgree first firstMember second secondMember :=
    batch.payloadsAgree first (permuted.mem_iff.2 firstMember) second (permuted.mem_iff.2 secondMember)
  noEviction first firstMember second secondMember :=
    batch.noEviction first (permuted.mem_iff.2 firstMember) second (permuted.mem_iff.2 secondMember)

theorem ConcurrentEvents.tail {state : State} {event : Action} {events : List Action}
    (batch : ConcurrentEvents state (event :: events)) :
    ConcurrentEvents (reduce state event) events where
  allEvents other member := batch.allEvents other (List.mem_cons_of_mem _ member)
  distinctIps := (List.nodup_cons.1 batch.distinctIps).2
  payloadsAgree first firstMember second secondMember :=
    batch.payloadsAgree first (List.mem_cons_of_mem _ firstMember) second
      (List.mem_cons_of_mem _ secondMember)
  noEviction first firstMember second secondMember := by
    obtain ⟨eventIp, eventWritten⟩ :=
      Option.isSome_iff_exists.1 (batch.allEvents event (List.mem_cons_self _ _))
    have away : second.writtenIp ≠ some eventIp := fun same => (List.nodup_cons.1 batch.distinctIps).1
      (List.mem_map.2 ⟨second, secondMember, by rw [same, eventWritten]⟩)
    have clear := batch.noEviction first (List.mem_cons_of_mem _ firstMember) second
      (List.mem_cons_of_mem _ secondMember)
    exact Bool.eq_false_iff.2 fun interferes => by
      simp [evictionInterferes_of_reduce eventWritten away interferes] at clear

theorem ConcurrentEvents.swap {state : State} {first second : Action} {events : List Action}
    (batch : ConcurrentEvents state (first :: second :: events)) :
    State.IsEqual (reduce (reduce state first) second) (reduce (reduce state second) first) := by
  have firstMember : first ∈ first :: second :: events := List.mem_cons_self _ _
  have secondMember : second ∈ first :: second :: events :=
    List.mem_cons_of_mem _ (List.mem_cons_self _ _)
  have event := batch.allEvents first firstMember
  have event' := batch.allEvents second secondMember
  obtain ⟨ip, firstIp⟩ := Option.isSome_iff_exists.1 event
  obtain ⟨ip', secondIp⟩ := Option.isSome_iff_exists.1 event'
  have distinct : ip ≠ ip' := fun same => (List.nodup_cons.1 batch.distinctIps).1
    (List.mem_cons.2 (.inl (by rw [firstIp, secondIp, same])))
  exact isEqual_events_of_clear firstIp secondIp distinct
    (batch.payloadsAgree first firstMember second secondMember)
    (batch.noEviction first firstMember second secondMember)
    (batch.noEviction second secondMember first firstMember)

/-- Every delivery order of a batch of concurrent store events leaves a
deep-equal store. -/
theorem events_commute_in_any_order (state : State) (events reordered : List Action)
    (permuted : events.Perm reordered) (batch : ConcurrentEvents state events) :
    State.IsEqual (run state events) (run state reordered) := by
  induction permuted generalizing state with
  | nil => exact .refl _
  | cons event _ ih => exact ih (reduce state event) batch.tail
  | swap second first rest => exact isEqual_run batch.swap rest
  | trans permuted _ ih ih' => exact (ih state batch).trans (ih' state (batch.perm permuted))

theorem events_commute_in_any_order_after_stale_sibling :
    ConcurrentEvents (run initialState [.initializeState (some [⟨"bot-1", none, none, ∅,
        [⟨"10.0.0.1", 31950⟩, ⟨"10.0.0.2", 31950⟩]⟩]) none,
      .healthPolled ⟨"10.0.0.2", 31950, none, none, none, none⟩])
      [.healthPolled ⟨"10.0.0.1", 31950, some ⟨"bot-1", ∅⟩, some ⟨"bot-1", ∅⟩, none, none⟩,
        .serviceFound "10.0.0.2" 31950 "bot-2", .serviceFound "10.0.0.3" 31950 "bot-3"] ∧
    State.IsEqual
      (run (run initialState [.initializeState (some [⟨"bot-1", none, none, ∅,
          [⟨"10.0.0.1", 31950⟩, ⟨"10.0.0.2", 31950⟩]⟩]) none,
        .healthPolled ⟨"10.0.0.2", 31950, none, none, none, none⟩])
        [.healthPolled ⟨"10.0.0.1", 31950, some ⟨"bot-1", ∅⟩, some ⟨"bot-1", ∅⟩, none, none⟩,
          .serviceFound "10.0.0.2" 31950 "bot-2", .serviceFound "10.0.0.3" 31950 "bot-3"])
      (run (run initialState [.initializeState (some [⟨"bot-1", none, none, ∅,
          [⟨"10.0.0.1", 31950⟩, ⟨"10.0.0.2", 31950⟩]⟩]) none,
        .healthPolled ⟨"10.0.0.2", 31950, none, none, none, none⟩])
        [.serviceFound "10.0.0.3" 31950 "bot-3", .serviceFound "10.0.0.2" 31950 "bot-2",
          .healthPolled ⟨"10.0.0.1", 31950, some ⟨"bot-1", ∅⟩, some ⟨"bot-1", ∅⟩, none, none⟩]) := by
  have batch : ConcurrentEvents (run initialState [.initializeState (some [⟨"bot-1", none, none, ∅,
        [⟨"10.0.0.1", 31950⟩, ⟨"10.0.0.2", 31950⟩]⟩]) none,
      .healthPolled ⟨"10.0.0.2", 31950, none, none, none, none⟩])
      [.healthPolled ⟨"10.0.0.1", 31950, some ⟨"bot-1", ∅⟩, some ⟨"bot-1", ∅⟩, none, none⟩,
        .serviceFound "10.0.0.2" 31950 "bot-2", .serviceFound "10.0.0.3" 31950 "bot-3"] :=
    ⟨by decide, by decide, by simp [PayloadsAgree], by decide⟩
  exact ⟨batch, events_commute_in_any_order _ _ _ (List.reverse_perm _).symm batch⟩

end Opentrons.DiscoveryClient
