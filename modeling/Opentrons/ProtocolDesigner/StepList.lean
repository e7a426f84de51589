import Mathlib.Data.List.Nodup

/-!
# Step-list utilities

A transcription of `getNextNonTerminalItemId` of `steplist/utils/index.js`.
After deleting steps the protocol designer selects the step right after the
last deleted one, or, when that was the last step, walks back to the nearest
step that survives. Array reads past either end are `undefined`, an empty id
is falsy, and the `while` loop runs on its own `attemptsLeft` budget.
-/

namespace Opentrons.ProtocolDesigner

set_option autoImplicit false

/-- `items[index]`, `undefined` below zero and past the end. -/
def itemAt (items : List String) (index : Int) : Option String :=
  if 0 ≤ index then items[index.toNat]? else none

/-- `items.indexOf(item)`: the first index, or `-1`. -/
def indexOf (items : List String) (item : String) : Int :=
  if item ∈ items then items.indexOf item else -1

/-- Truthiness of a step id: `undefined` and `""` are falsy. -/
def isTruthy : Option String → Bool
  | some id => id != ""
  | none => false

def includes (stepsToDelete : List String) : Option String → Bool
  | some id => decide (id ∈ stepsToDelete)
  | none => false

def highestDeletedIndex (orderedStepIds stepsToDelete : List String) : Int :=
  stepsToDelete.foldl
    (fun highestIndex val => max (indexOf orderedStepIds val) highestIndex) 0

/-- The `while` loop, with `attemptsLeft` as its budget. -/
def scanBack (orderedStepIds stepsToDelete : List String) :
    Nat → Int → Option String → Option String
  | 0, _, nextStepId => nextStepId
  | attemptsLeft + 1, highestDeletedIndex, nextStepId =>
      if isTruthy nextStepId then nextStepId
      else
        let potentialNextStepId := itemAt orderedStepIds (highestDeletedIndex - 1)
        if includes stepsToDelete potentialNextStepId then
          scanBack orderedStepIds stepsToDelete attemptsLeft (highestDeletedIndex - 1) nextStepId
        else
          scanBack orderedStepIds stepsToDelete attemptsLeft (highestDeletedIndex - 1)
            potentialNextStepId

def getNextNonTerminalItemId (orderedStepIds stepsToDelete : List String) : Option String :=
  let highestDeletedIndex := highestDeletedIndex orderedStepIds stepsToDelete
  let nextStepId := itemAt orderedStepIds (highestDeletedIndex + 1)
  scanBack orderedStepIds stepsToDelete orderedStepIds.length highestDeletedIndex nextStepId

/-! ## Reading the array -/

@[simp] theorem itemAt_natCast (items : List String) (index : Nat) :
    itemAt items index = items[index]? := by
  rw [itemAt, if_pos (Int.ofNat_nonneg index), Int.toNat_ofNat]

theorem itemAt_neg (items : List String) {index : Int} (negative : index < 0) :
    itemAt items index = none := by
  simp [itemAt, not_le.2 negative]

theorem indexOf_of_mem {items : List String} {item : String} (member : item ∈ items) :
    indexOf items item = items.indexOf item ∧ items[items.indexOf item]? = some item := by
  simp [indexOf, member]

/-! ## The highest deleted index -/

def IsHighestDeleted (orderedStepIds stepsToDelete : List String) (highest : Nat) : Prop :=
  (∃ id, orderedStepIds[highest]? = some id ∧ id ∈ stepsToDelete) ∧
    ∀ later id, highest < later → orderedStepIds[later]? = some id → id ∉ stepsToDelete

theorem foldl_max_spec (score : String → Int) (values : List String) (start : Int) :
    (values.foldl (fun highest value => max (score value) highest) start = start ∨
        ∃ value ∈ values,
          values.foldl (fun highest value => max (score value) highest) start = score value) ∧
      start ≤ values.foldl (fun highest value => max (score value) highest) start ∧
      ∀ value ∈ values, score value ≤ values.foldl (fun highest value => max (score value) highest) start := by
  induction values generalizing start with
  | nil => simp
  | cons first rest ih =>
      obtain ⟨reached, above, bounds⟩ := ih (max (score first) start)
      simp only [List.foldl_cons, List.mem_cons, forall_eq_or_imp, exists_eq_or_imp]
      refine ⟨?_, le_trans (le_max_right _ _) above, le_trans (le_max_left _ _) above, bounds⟩
      rcases reached with same | later
      · by_cases order : score first ≤ start
        · exact .inl (by rw [same, max_eq_right order])
        · exact .inr (.inl (by rw [same, max_eq_left (le_of_not_le order)]))
      · exact .inr (.inr later)

theorem highestDeletedIndex_spec {orderedStepIds stepsToDelete : List String}
    (distinct : orderedStepIds.Nodup) (deleting : stepsToDelete ≠ [])
    (drawn : ∀ id ∈ stepsToDelete, id ∈ orderedStepIds) :
    ∃ highest : Nat, highestDeletedIndex orderedStepIds stepsToDelete = highest ∧
      IsHighestDeleted orderedStepIds stepsToDelete highest := by
  obtain ⟨reached, above, bounds⟩ := foldl_max_spec (indexOf orderedStepIds) stepsToDelete 0
  have attained : ∃ id ∈ stepsToDelete,
      highestDeletedIndex orderedStepIds stepsToDelete = indexOf orderedStepIds id := by
    rcases reached with start | attained
    · obtain ⟨id, member⟩ := List.exists_mem_of_ne_nil _ deleting
      have atLeast := bounds id member
      have nonneg := (indexOf_of_mem (drawn id member)).1
      refine ⟨id, member, ?_⟩
      unfold highestDeletedIndex
      omega
    · exact attained
  obtain ⟨id, member, isHighest⟩ := attained
  obtain ⟨index, found⟩ := indexOf_of_mem (drawn id member)
  refine ⟨orderedStepIds.indexOf id, isHighest.trans index, ⟨id, found, member⟩, ?_⟩
  intro later other beyond stored deleted
  obtain ⟨bound, same⟩ := List.getElem?_eq_some_iff.1 stored
  have placed : indexOf orderedStepIds other = later := by
    rw [(indexOf_of_mem (drawn other deleted)).1, ← same, List.indexOf_getElem distinct]
  have := bounds other deleted
  unfold highestDeletedIndex at isHighest
  omega

theorem IsHighestDeleted.unique {orderedStepIds stepsToDelete : List String} {first second : Nat}
    (isFirst : IsHighestDeleted orderedStepIds stepsToDelete first)
    (isSecond : IsHighestDeleted orderedStepIds stepsToDelete second) : first = second := by
  obtain ⟨⟨id, found, deleted⟩, firstAbove⟩ := isFirst
  obtain ⟨⟨id', found', deleted'⟩, secondAbove⟩ := isSecond
  by_contra differ
  rcases Nat.lt_or_gt_of_ne differ with below | above
  · exact firstAbove second id' below found' deleted'
  · exact secondAbove first id above found deleted

/-! ## The backward walk -/

def nearestKeptBelow (orderedStepIds stepsToDelete : List String) : Nat → Option String
  | 0 => none
  | index + 1 =>
      match orderedStepIds[index]? with
      | some id => if id ∈ stepsToDelete then nearestKeptBelow orderedStepIds stepsToDelete index
          else some id
      | none => nearestKeptBelow orderedStepIds stepsToDelete index

theorem scanBack_truthy (orderedStepIds stepsToDelete : List String) (attemptsLeft : Nat)
    (index : Int) {id : String} (named : id ≠ "") :
    scanBack orderedStepIds stepsToDelete attemptsLeft index (some id) = some id := by
  cases attemptsLeft with
  | zero => rfl
  | succ attemptsLeft => simp [scanBack, isTruthy, named]

theorem scanBack_below_zero (orderedStepIds stepsToDelete : List String) (attemptsLeft : Nat)
    {index : Int} (negative : index < 0) :
    scanBack orderedStepIds stepsToDelete attemptsLeft index none = none := by
  induction attemptsLeft generalizing index with
  | zero => rfl
  | succ attemptsLeft ih =>
      simp only [scanBack, isTruthy, itemAt_neg _ (by omega : index - 1 < 0), includes]
      exact ih (by omega)

/-- With enough attempts the walk from `index` finds the nearest kept step
below it, or nothing. -/
theorem scanBack_none {orderedStepIds stepsToDelete : List String}
    (named : "" ∉ orderedStepIds) (attemptsLeft index : Nat) (enough : index ≤ attemptsLeft)
    (inside : index ≤ orderedStepIds.length) :
    scanBack orderedStepIds stepsToDelete attemptsLeft index none =
      nearestKeptBelow orderedStepIds stepsToDelete index := by
  induction attemptsLeft generalizing index with
  | zero =>
      obtain rfl : index = 0 := by omega
      rfl
  | succ attemptsLeft ih =>
      cases index with
      | zero =>
          have negative : ((0 : Nat) : Int) - 1 < 0 := by omega
          simp only [scanBack, isTruthy, itemAt_neg _ negative, includes]
          exact scanBack_below_zero _ _ _ negative
      | succ index =>
          have bound : index < orderedStepIds.length := by omega
          have found : orderedStepIds[index]? = some orderedStepIds[index] :=
            List.getElem?_eq_getElem bound
          have shifted : ((index + 1 : Nat) : Int) - 1 = index := by omega
          simp only [scanBack, isTruthy, shifted, itemAt_natCast, found, includes,
            nearestKeptBelow, Bool.false_eq_true, ite_false]
          by_cases deleted : orderedStepIds[index] ∈ stepsToDelete
          · rw [if_pos (decide_eq_true deleted), if_pos deleted]
            exact ih index (by omega) (by omega)
          · rw [if_neg (by simpa using deleted), if_neg deleted]
            exact scanBack_truthy _ _ _ _ fun empty => named (empty ▸ List.getElem_mem bound)

theorem nearestKeptBelow_kept {orderedStepIds stepsToDelete : List String} :
    ∀ {index : Nat} {id : String},
      nearestKeptBelow orderedStepIds stepsToDelete index = some id → id ∉ stepsToDelete
  | 0, _, found => by cases found
  | index + 1, id, found => by
      simp only [nearestKeptBelow] at found
      split at found
      · split at found
        · exact nearestKeptBelow_kept found
        · next kept => cases found; exact kept
      · exact nearestKeptBelow_kept found

theorem nearestKeptBelow_succ_eq_none {orderedStepIds stepsToDelete : List String} (index : Nat) :
    nearestKeptBelow orderedStepIds stepsToDelete (index + 1) = none ↔
      (∀ id, orderedStepIds[index]? = some id → id ∈ stepsToDelete) ∧
        nearestKeptBelow orderedStepIds stepsToDelete index = none := by
  simp only [nearestKeptBelow]
  split
  · split <;> simp_all
  · next missing => simp [missing]

theorem nearestKeptBelow_eq_none {orderedStepIds stepsToDelete : List String} :
    ∀ {index : Nat}, nearestKeptBelow orderedStepIds stepsToDelete index = none ↔
      ∀ below id, below < index → orderedStepIds[below]? = some id → id ∈ stepsToDelete
  | 0 => by simp [nearestKeptBelow]
  | index + 1 => by
      rw [nearestKeptBelow_succ_eq_none, nearestKeptBelow_eq_none]
      constructor
      · rintro ⟨here, rest⟩ below id under stored
        rcases Nat.lt_succ_iff_lt_or_eq.1 under with under | rfl
        · exact rest below id under stored
        · exact here id stored
      · exact fun all => ⟨fun id => all index id (by omega), fun below id under => all below id (by omega)⟩

theorem nearestKeptBelow_eq_some {orderedStepIds stepsToDelete : List String} {below : Nat}
    {id : String} (stored : orderedStepIds[below]? = some id) (kept : id ∉ stepsToDelete) :
    ∀ {index : Nat}, below < index →
      (∀ between id', below < between → between < index → orderedStepIds[between]? = some id' →
        id' ∈ stepsToDelete) →
      nearestKeptBelow orderedStepIds stepsToDelete index = some id
  | 0, under, _ => by omega
  | index + 1, under, deletedBetween => by
      simp only [nearestKeptBelow]
      rcases Nat.lt_succ_iff_lt_or_eq.1 under with under | same
      · have skipped := fun id' (found : orderedStepIds[index]? = some id') =>
          deletedBetween index id' under (by omega) found
        have rest := nearestKeptBelow_eq_some stored kept under
          fun between id' after before found => deletedBetween between id' after (by omega) found
        split
        · next id' found => simp [skipped id' found, rest]
        · exact rest
      · subst same
        simp [stored, kept]

/-! ## The chosen step -/

theorem itemAt_mem {items : List String} {index : Int} {id : String}
    (found : itemAt items index = some id) : id ∈ items := by
  unfold itemAt at found
  split at found
  · exact List.getElem?_mem found
  · cases found

/-- The walk returns the id it started with, or an array read below it that is
not being deleted. -/
theorem scanBack_eq_some {orderedStepIds stepsToDelete : List String} :
    ∀ (attemptsLeft : Nat) (index : Int) (nextStepId : Option String) (id : String),
      scanBack orderedStepIds stepsToDelete attemptsLeft index nextStepId = some id →
      nextStepId = some id ∨
        ∃ below, itemAt orderedStepIds below = some id ∧ id ∉ stepsToDelete
  | 0, _, _, _, found => .inl found
  | attemptsLeft + 1, index, nextStepId, id, found => by
      simp only [scanBack] at found
      split at found
      · exact .inl found
      · split at found
        · exact scanBack_eq_some attemptsLeft _ _ id found
        · next notDeleted =>
          rcases scanBack_eq_some attemptsLeft _ _ id found with picked | earlier
          · exact .inr ⟨_, picked, by simpa [includes, picked] using notDeleted⟩
          · exact .inr earlier

theorem scanBack_mem {orderedStepIds stepsToDelete : List String} :
    ∀ (attemptsLeft : Nat) (index : Int) (nextStepId : Option String),
      (∀ id, nextStepId = some id → id ∈ orderedStepIds) →
      ∀ id, scanBack orderedStepIds stepsToDelete attemptsLeft index nextStepId = some id →
        id ∈ orderedStepIds := by
  intro attemptsLeft index nextStepId drawn id found
  rcases scanBack_eq_some attemptsLeft index nextStepId id found with start | ⟨_, read, -⟩
  · exact drawn id start
  · exact itemAt_mem read

/-- Whatever the two lists, the chosen step is one of the ordered steps. -/
theorem getNextNonTerminalItemId_mem (orderedStepIds stepsToDelete : List String) (id : String)
    (chosen : getNextNonTerminalItemId orderedStepIds stepsToDelete = some id) :
    id ∈ orderedStepIds :=
  scanBack_mem _ _ _ (fun _ found => itemAt_mem found) id chosen

theorem getNextNonTerminalItemId_mem_after_unknown_deletion :
    getNextNonTerminalItemId ["step-1", "step-2"] ["step-9"] = some "step-2" ∧
      "step-2" ∈ ["step-1", "step-2"] :=
  ⟨by decide, getNextNonTerminalItemId_mem ["step-1", "step-2"] ["step-9"] _ (by decide)⟩

theorem scanBack_kept {orderedStepIds stepsToDelete : List String} :
    ∀ (attemptsLeft : Nat) (index : Int) (nextStepId : Option String),
      (∀ id, nextStepId = some id → id ∉ stepsToDelete) →
      ∀ id, scanBack orderedStepIds stepsToDelete attemptsLeft index nextStepId = some id →
        id ∉ stepsToDelete := by
  intro attemptsLeft index nextStepId kept id found
  rcases scanBack_eq_some attemptsLeft index nextStepId id found with start | ⟨_, -, notDeleted⟩
  · exact kept id start
  · exact notDeleted

theorem itemAt_after_highest_kept {orderedStepIds stepsToDelete : List String}
    (distinct : orderedStepIds.Nodup) {id : String}
    (found : itemAt orderedStepIds (highestDeletedIndex orderedStepIds stepsToDelete + 1) = some id) :
    id ∉ stepsToDelete := by
  intro deleted
  have atMost : indexOf orderedStepIds id ≤ highestDeletedIndex orderedStepIds stepsToDelete :=
    (foldl_max_spec (indexOf orderedStepIds) stepsToDelete 0).2.2 id deleted
  unfold itemAt at found
  split at found
  · next nonneg =>
    obtain ⟨inside, stored⟩ := List.getElem?_eq_some_iff.1 found
    have placed : indexOf orderedStepIds id =
        ((highestDeletedIndex orderedStepIds stepsToDelete + 1).toNat : Int) := by
      rw [(indexOf_of_mem (stored ▸ List.getElem_mem inside)).1, ← stored,
        List.indexOf_getElem distinct]
    have cast := Int.toNat_of_nonneg nonneg
    omega
  · cases found

/-- For distinct step ids the chosen step is never one being deleted, whatever
the deleted list holds: ids missing from the list, repeats, or none at all. -/
theorem getNextNonTerminalItemId_never_deleted (orderedStepIds stepsToDelete : List String)
    (distinct : orderedStepIds.Nodup) (id : String)
    (chosen : getNextNonTerminalItemId orderedStepIds stepsToDelete = some id) :
    id ∉ stepsToDelete :=
  scanBack_kept _ _ _ (fun _ found => itemAt_after_highest_kept distinct found) id chosen

theorem getNextNonTerminalItemId_never_deleted_with_unknown_id :
    getNextNonTerminalItemId ["step-1", "step-2", "step-3"] ["step-2", "step-9"] = some "step-3" ∧
      "step-3" ∉ ["step-2", "step-9"] :=
  ⟨by decide, getNextNonTerminalItemId_never_deleted ["step-1", "step-2", "step-3"]
    ["step-2", "step-9"] (by decide) _ (by decide)⟩

theorem getNextNonTerminalItemId_eq {orderedStepIds stepsToDelete : List String}
    (named : "" ∉ orderedStepIds) {highest : Nat}
    (computed : highestDeletedIndex orderedStepIds stepsToDelete = highest)
    (inside : highest < orderedStepIds.length) :
    getNextNonTerminalItemId orderedStepIds stepsToDelete =
      if highest + 1 < orderedStepIds.length then orderedStepIds[highest + 1]?
      else nearestKeptBelow orderedStepIds stepsToDelete highest := by
  have next : itemAt orderedStepIds (highest + 1) = orderedStepIds[highest + 1]? := by
    rw [← itemAt_natCast]
    rfl
  simp only [getNextNonTerminalItemId, computed, next]
  split
  · next within =>
    rw [List.getElem?_eq_getElem within]
    exact scanBack_truthy _ _ _ _ fun empty => named (empty ▸ List.getElem_mem within)
  · next last =>
    rw [List.getElem?_eq_none (by omega)]
    exact scanBack_none named _ _ (by omega) (by omega)

/-- After deleting some of a list of distinct non-empty step ids: no step is
chosen exactly when every step goes; the step right after the last deleted
one is chosen when there is one, and otherwise the nearest kept step below
it; a deleted step is never chosen. -/
theorem getNextNonTerminalItemId_spec (orderedStepIds stepsToDelete : List String)
    (distinct : orderedStepIds.Nodup) (named : "" ∉ orderedStepIds)
    (deleting : stepsToDelete ≠ []) (drawn : ∀ id ∈ stepsToDelete, id ∈ orderedStepIds) :
    (getNextNonTerminalItemId orderedStepIds stepsToDelete = none ↔
        ∀ id ∈ orderedStepIds, id ∈ stepsToDelete) ∧
      (∀ highest, IsHighestDeleted orderedStepIds stepsToDelete highest →
        (highest + 1 < orderedStepIds.length →
          getNextNonTerminalItemId orderedStepIds stepsToDelete = orderedStepIds[highest + 1]?) ∧
        (highest + 1 = orderedStepIds.length → ∀ below id, below < highest →
          orderedStepIds[below]? = some id → id ∉ stepsToDelete →
          (∀ between id', below < between → between < highest →
            orderedStepIds[between]? = some id' → id' ∈ stepsToDelete) →
          getNextNonTerminalItemId orderedStepIds stepsToDelete = some id)) ∧
      (∀ id, getNextNonTerminalItemId orderedStepIds stepsToDelete = some id →
        id ∉ stepsToDelete) := by
  obtain ⟨highest, computed, isHighest⟩ := highestDeletedIndex_spec distinct deleting drawn
  obtain ⟨⟨last, stored, lastDeleted⟩, laterKept⟩ := isHighest
  have inside : highest < orderedStepIds.length := (List.getElem?_eq_some_iff.1 stored).1
  have chosen := getNextNonTerminalItemId_eq named computed inside
  have allByIndex : (∀ id ∈ orderedStepIds, id ∈ stepsToDelete) ↔
      ∀ (index : Nat) id, orderedStepIds[index]? = some id → id ∈ stepsToDelete := by
    simp only [List.mem_iff_getElem?]
    exact ⟨fun all index id found => all id ⟨index, found⟩,
      fun all id ⟨index, found⟩ => all index id found⟩
  refine ⟨?_, fun highest' isHighest' => ?_, ?_⟩
  · rw [chosen, allByIndex]
    split
    · next within =>
      rw [List.getElem?_eq_getElem within]
      simp only [reduceCtorEq, false_iff, not_forall]
      exact ⟨highest + 1, _, List.getElem?_eq_getElem within,
        laterKept _ _ (by omega) (List.getElem?_eq_getElem within)⟩
    · next atEnd =>
      have skipLast : nearestKeptBelow orderedStepIds stepsToDelete (highest + 1) =
          nearestKeptBelow orderedStepIds stepsToDelete highest := by
        simp [nearestKeptBelow, stored, lastDeleted]
      rw [← skipLast, nearestKeptBelow_eq_none]
      refine ⟨fun under index id found => under index id ?_ found, fun all below id _ => all below id⟩
      have := (List.getElem?_eq_some_iff.1 found).1
      omega
  · have same := IsHighestDeleted.unique isHighest' ⟨⟨last, stored, lastDeleted⟩, laterKept⟩
    subst same
    refine ⟨fun within => by rw [chosen, if_pos within], fun atEnd below id under found kept between => ?_⟩
    rw [chosen, if_neg (by omega)]
    exact nearestKeptBelow_eq_some found kept under between
  · intro id found
    rw [chosen] at found
    split at found
    · next within =>
      exact laterKept _ _ (by omega) found
    · exact nearestKeptBelow_kept found

theorem getNextNonTerminalItemId_when_all_deleted :
    getNextNonTerminalItemId ["step-1", "step-2"] ["step-2", "step-1"] = none :=
  (getNextNonTerminalItemId_spec ["step-1", "step-2"] ["step-2", "step-1"] (by decide) (by decide)
    (by decide) (by decide)).1.2 (by decide)

end Opentrons.ProtocolDesigner
