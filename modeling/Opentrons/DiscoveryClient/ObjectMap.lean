import Mathlib.Data.List.Nodup

/-!
# Plain objects used as dictionaries

The discovery-client store keeps robots by name and hosts by ip in plain
objects. An object here is its own enumerable string keys in insertion order,
each key once, with a value per key (keys that are array indices, which
`Object.keys` lists first, are not told apart). Only the operations the reducer
performs are modelled: the spread update `{ ...object, [key]: value }`, lodash
`omit`, `keyBy`, `Object.keys` filtered by a predicate, and the two reads that
also see what a plain object inherits from `Object.prototype`: the property
read `object[key]` and the test `key in object`. Lodash `isEqual` on two such
objects compares own lookups, so deep equality is equality of `get`.
-/

namespace Opentrons.DiscoveryClient

set_option autoImplicit false

structure ObjectMap (Value : Type) where
  entries : List (String × Value)
  keysNodup : (entries.map Prod.fst).Nodup

/-- The properties every plain object inherits from `Object.prototype`. -/
def objectPrototypeProperties : List String :=
  ["constructor", "__defineGetter__", "__defineSetter__", "hasOwnProperty", "__lookupGetter__",
    "__lookupSetter__", "isPrototypeOf", "propertyIsEnumerable", "toString", "valueOf",
    "__proto__", "toLocaleString"]

/-- What `object[key]` evaluates to: an own value, a member inherited from
`Object.prototype` (a function, or the prototype itself for `__proto__`), or
`undefined`. -/
inductive Property (Value : Type) where
  | own (value : Value)
  | inherited
  | undefined
  deriving DecidableEq

/-- The record a read found: on an inherited member every field the store
reads (`robot?.health`) is `undefined`. -/
def Property.ownValue {Value : Type} : Property Value → Option Value
  | .own value => some value
  | _ => none

def Property.isNullish {Value : Type} : Property Value → Bool
  | .undefined => true
  | _ => false

namespace ObjectMap

variable {Value : Type}

theorem ext {left right : ObjectMap Value} (same : left.entries = right.entries) :
    left = right := by
  cases left
  cases right
  cases same
  rfl

instance [DecidableEq Value] : DecidableEq (ObjectMap Value) := fun left right =>
  decidable_of_iff (left.entries = right.entries) ⟨ext, fun same => same ▸ rfl⟩

def empty : ObjectMap Value := ⟨[], List.nodup_nil⟩

def keys (object : ObjectMap Value) : List String := object.entries.map Prod.fst

def get (object : ObjectMap Value) (key : String) : Option Value := object.entries.lookup key

@[simp] theorem lookup_cons_pair (name target : String) (stored : Value)
    (rest : List (String × Value)) :
    ((name, stored) :: rest).lookup target =
      if target = name then some stored else rest.lookup target := by
  simp only [List.lookup_cons]
  split <;> simp_all

/-- The spread update on the entry list: an existing key keeps its position,
a new key goes last. -/
def assign (key : String) (value : Value) : List (String × Value) → List (String × Value)
  | [] => [(key, value)]
  | entry :: rest => if entry.1 = key then (key, value) :: rest else entry :: assign key value rest

theorem keys_assign (key : String) (value : Value) (entries : List (String × Value)) :
    (assign key value entries).map Prod.fst =
      if key ∈ entries.map Prod.fst then entries.map Prod.fst
      else entries.map Prod.fst ++ [key] := by
  induction entries with
  | nil => simp [assign]
  | cons entry rest ih =>
      by_cases here : entry.1 = key
      · simp [assign, here]
      · by_cases later : key ∈ rest.map Prod.fst <;>
          simp [assign, here, ih, later, Ne.symm here]

theorem lookup_assign (key : String) (value : Value) (entries : List (String × Value))
    (target : String) :
    (assign key value entries).lookup target =
      if target = key then some value else entries.lookup target := by
  induction entries with
  | nil => simp [assign]
  | cons entry rest ih =>
      obtain ⟨name, stored⟩ := entry
      by_cases here : name = key
      · subst here
        by_cases hit : target = name <;> simp [assign, hit]
      · by_cases hit : target = name
        · subst hit
          simp [assign, here]
        · simp [assign, here, hit, ih]

def set (object : ObjectMap Value) (key : String) (value : Value) : ObjectMap Value where
  entries := assign key value object.entries
  keysNodup := by
    rw [keys_assign]
    split
    · exact object.keysNodup
    · exact List.nodup_append.2 ⟨object.keysNodup, List.nodup_singleton key,
        List.disjoint_singleton.2 ‹_›⟩

/-- Lodash `omit(object, paths)` for top-level keys. -/
def «omit» (object : ObjectMap Value) (paths : List String) : ObjectMap Value where
  entries := object.entries.filter fun entry => entry.1 ∉ paths
  keysNodup := object.keysNodup.sublist ((List.filter_sublist _).map _)

def keysWhere (object : ObjectMap Value) (keep : String → Value → Bool) : List String :=
  (object.entries.filter fun entry => keep entry.1 entry.2).map Prod.fst

/-- Lodash `keyBy(values, key)`: later values overwrite earlier ones of the same key. -/
def keyBy (values : List Value) (key : Value → String) : ObjectMap Value :=
  values.foldl (fun result value => result.set (key value) value) empty

@[simp] theorem get_empty (key : String) : (empty : ObjectMap Value).get key = none := rfl

@[simp] theorem get_set (object : ObjectMap Value) (key target : String) (value : Value) :
    (object.set key value).get target = if target = key then some value else object.get target :=
  lookup_assign key value object.entries target

@[simp] theorem get_omit (object : ObjectMap Value) (paths : List String) (target : String) :
    (object.«omit» paths).get target = if target ∈ paths then none else object.get target := by
  simp only [get, «omit»]
  induction object.entries with
  | nil => simp
  | cons entry rest ih =>
      obtain ⟨name, stored⟩ := entry
      by_cases kept : name ∈ paths
      · rw [List.filter_cons_of_neg (by simp [kept]), ih]
        by_cases hit : target = name
        · subst hit
          simp [kept]
        · simp [hit]
      · rw [List.filter_cons_of_pos (by simp [kept]), lookup_cons_pair, lookup_cons_pair, ih]
        by_cases hit : target = name
        · subst hit
          simp [kept]
        · simp [hit]

theorem get_eq_none_iff (object : ObjectMap Value) (target : String) :
    object.get target = none ↔ target ∉ object.keys := by
  simp only [get, keys, List.lookup_eq_none_iff, bne_iff_ne, ne_eq, List.mem_map, not_exists,
    not_and]
  exact ⟨fun apart entry member same => apart entry member same.symm,
    fun apart entry member same => apart entry member same.symm⟩

theorem mem_keys_iff_isSome (object : ObjectMap Value) (target : String) :
    target ∈ object.keys ↔ (object.get target).isSome := by
  rw [← not_iff_not, ← get_eq_none_iff]
  simp

private theorem lookup_of_mem {key : String} {value : Value} :
    ∀ {entries : List (String × Value)}, (entries.map Prod.fst).Nodup →
      (key, value) ∈ entries → entries.lookup key = some value
  | [], _, member => by simp at member
  | (name, stored) :: rest, nodup, member => by
      simp only [List.map_cons, List.nodup_cons, List.mem_map] at nodup
      rcases List.mem_cons.1 member with same | later
      · cases same
        simp
      · have fresh : key ≠ name := fun same => nodup.1 ⟨_, later, same⟩
        simpa [fresh] using lookup_of_mem nodup.2 later

theorem get_of_mem (object : ObjectMap Value) {key : String} {value : Value}
    (member : (key, value) ∈ object.entries) : object.get key = some value :=
  lookup_of_mem object.keysNodup member

private theorem mem_of_lookup {key : String} {value : Value} :
    ∀ {entries : List (String × Value)}, entries.lookup key = some value → (key, value) ∈ entries
  | [], found => by simp at found
  | (name, stored) :: rest, found => by
      by_cases hit : key = name
      · simp_all
      · simp only [lookup_cons_pair, hit, if_false] at found
        exact List.mem_cons_of_mem _ (mem_of_lookup found)

theorem mem_of_get (object : ObjectMap Value) {key : String} {value : Value}
    (found : object.get key = some value) : (key, value) ∈ object.entries :=
  mem_of_lookup found

theorem mem_keysWhere (object : ObjectMap Value) (keep : String → Value → Bool) (key : String) :
    key ∈ object.keysWhere keep ↔ ∃ value, object.get key = some value ∧ keep key value := by
  simp only [keysWhere, List.mem_map, List.mem_filter]
  constructor
  · rintro ⟨⟨name, value⟩, ⟨member, kept⟩, rfl⟩
    exact ⟨value, object.get_of_mem member, kept⟩
  · rintro ⟨value, found, kept⟩
    exact ⟨(key, value), ⟨object.mem_of_get found, kept⟩, rfl⟩

theorem keysWhere_omit_self (object : ObjectMap Value) (keep : String → Value → Bool) :
    (object.«omit» (object.keysWhere keep)).keysWhere keep = [] := by
  refine List.eq_nil_iff_forall_not_mem.2 fun key selected => ?_
  obtain ⟨value, found, kept⟩ := (mem_keysWhere _ _ key).1 selected
  rw [get_omit] at found
  split at found
  · cases found
  · next omitted => exact omitted ((object.mem_keysWhere keep key).2 ⟨value, found, kept⟩)

theorem keysWhere_set_omit_self (object : ObjectMap Value) (keep : String → Value → Bool)
    {key : String} {value : Value} (rejected : keep key value = false) :
    ((object.«omit» (object.keysWhere keep)).set key value).keysWhere keep = [] := by
  refine List.eq_nil_iff_forall_not_mem.2 fun target selected => ?_
  obtain ⟨stored, found, kept⟩ := (mem_keysWhere _ _ target).1 selected
  rw [get_set] at found
  split at found
  · next hit =>
    cases found
    exact absurd (hit ▸ kept) (by simp [rejected])
  · have omitted := keysWhere_omit_self object keep
    exact List.eq_nil_iff_forall_not_mem.1 omitted target ((mem_keysWhere _ _ target).2 ⟨stored, found, kept⟩)

private theorem filter_map_fst (keep : String → Value → Bool) :
    ∀ {entries : List (String × Value)}, (entries.map Prod.fst).Nodup →
      (entries.filter fun entry => keep entry.1 entry.2).map Prod.fst =
        (entries.map Prod.fst).filter fun key => (entries.lookup key).any (keep key)
  | [], _ => rfl
  | (name, stored) :: rest, nodup => by
      simp only [List.map_cons, List.nodup_cons] at nodup
      have later : (rest.map Prod.fst).filter (fun key => (rest.lookup key).any (keep key)) =
          (rest.map Prod.fst).filter fun key =>
            (if key = name then some stored else rest.lookup key).any (keep key) :=
        List.filter_congr fun key member => by
          have apart : key ≠ name := fun same => nodup.1 (same ▸ member)
          simp [apart]
      by_cases kept : keep name stored <;>
        simpa [List.filter_cons, kept, filter_map_fst keep nodup.2] using later

theorem keysWhere_eq_filter (object : ObjectMap Value) (keep : String → Value → Bool) :
    object.keysWhere keep = object.keys.filter fun key => (object.get key).any (keep key) :=
  filter_map_fst keep object.keysNodup

theorem keys_perm_of_get_eq {left right : ObjectMap Value} (same : left.get = right.get) :
    left.keys.Perm right.keys :=
  (List.perm_ext_iff_of_nodup left.keysNodup right.keysNodup).2 fun key =>
    (left.mem_keys_iff_isSome key).trans (same ▸ (right.mem_keys_iff_isSome key).symm)

theorem keysWhere_perm_of_get_eq {left right : ObjectMap Value} (same : left.get = right.get)
    (keep : String → Value → Bool) : (left.keysWhere keep).Perm (right.keysWhere keep) := by
  rw [keysWhere_eq_filter, keysWhere_eq_filter, same]
  exact (keys_perm_of_get_eq same).filter _

theorem set_of_get (object : ObjectMap Value) {key : String} {value : Value}
    (found : object.get key = some value) : object.set key value = object := by
  apply ext
  obtain ⟨entries, nodup⟩ := object
  simp only [set, get] at found ⊢
  induction entries with
  | nil => simp at found
  | cons entry rest ih =>
      obtain ⟨name, stored⟩ := entry
      simp only [List.map_cons, List.nodup_cons] at nodup
      by_cases hit : name = key
      · subst hit
        simp_all [assign]
      · simp_all [assign, Ne.symm hit]

@[simp] theorem omit_nil (object : ObjectMap Value) : object.«omit» [] = object :=
  ext (by simp [«omit»])

theorem get_keyBy_foldl (values : List Value) (key : Value → String) (start : ObjectMap Value)
    (target : String) (value : Value)
    (found : (values.foldl (fun result value => result.set (key value) value) start).get target =
      some value) :
    start.get target = some value ∨ value ∈ values ∧ key value = target := by
  induction values generalizing start with
  | nil => exact .inl found
  | cons first rest ih =>
      rcases ih _ found with earlier | later
      · by_cases hit : target = key first
        · simp only [get_set, hit, if_true, Option.some.injEq] at earlier
          exact .inr ⟨by simp [earlier], by rw [← earlier, hit]⟩
        · simp only [get_set, hit, if_false] at earlier
          exact .inl earlier
      · exact .inr ⟨List.mem_cons_of_mem _ later.1, later.2⟩

theorem get_keyBy (values : List Value) (key : Value → String) {target : String} {value : Value}
    (found : (keyBy values key).get target = some value) : value ∈ values ∧ key value = target := by
  rcases get_keyBy_foldl values key empty target value found with none | stored
  · simp at none
  · exact stored

theorem isSome_get_keyBy_foldl (values : List Value) (key : Value → String)
    (start : ObjectMap Value) (target : String)
    (known : (start.get target).isSome ∨ ∃ value ∈ values, key value = target) :
    ((values.foldl (fun result value => result.set (key value) value) start).get target).isSome := by
  induction values generalizing start with
  | nil => simpa using known
  | cons first rest ih =>
      apply ih
      by_cases hit : target = key first
      · simp [hit]
      · simp only [get_set, hit, if_false]
        rcases known with stored | ⟨value, member, named⟩
        · exact .inl stored
        · rcases List.mem_cons.1 member with rfl | later
          · exact absurd named.symm hit
          · exact .inr ⟨value, later, named⟩

theorem isSome_get_keyBy (values : List Value) (key : Value → String) {value : Value}
    (member : value ∈ values) : ((keyBy values key).get (key value)).isSome :=
  isSome_get_keyBy_foldl values key empty _ (.inr ⟨value, member, rfl⟩)

/-! ## Reads that see `Object.prototype` -/

/-- `object[key]`. -/
def read (object : ObjectMap Value) (key : String) : Property Value :=
  match object.get key with
  | some value => .own value
  | none => if key ∈ objectPrototypeProperties then .inherited else .undefined

/-- `key in object`. -/
def hasProperty (object : ObjectMap Value) (key : String) : Bool :=
  decide (key ∈ object.keys) || decide (key ∈ objectPrototypeProperties)

@[simp] theorem ownValue_read (object : ObjectMap Value) (key : String) :
    (object.read key).ownValue = object.get key := by
  unfold read
  split
  · next found => simp [Property.ownValue, found]
  · next missing => split <;> simp [Property.ownValue, missing]

@[simp] theorem read_eq_own_iff (object : ObjectMap Value) (key : String) (value : Value) :
    object.read key = .own value ↔ object.get key = some value := by
  unfold read
  split
  · next found => simp [found]
  · next missing => split <;> simp [missing]

theorem isNullish_read (object : ObjectMap Value) (key : String) :
    (object.read key).isNullish ↔ object.get key = none ∧ key ∉ objectPrototypeProperties := by
  unfold read
  split
  · next found => simp [found, Property.isNullish]
  · next missing => split <;> simp_all [Property.isNullish]

theorem hasProperty_iff (object : ObjectMap Value) (key : String) :
    object.hasProperty key ↔ key ∈ object.keys ∨ key ∈ objectPrototypeProperties := by
  simp [hasProperty]

theorem read_eq_of_get_eq {left right : ObjectMap Value} (same : left.get = right.get) :
    left.read = right.read := by
  funext key
  simp only [read, same]

theorem hasProperty_eq_of_get_eq {left right : ObjectMap Value} (same : left.get = right.get) :
    left.hasProperty = right.hasProperty := by
  funext key
  simp only [hasProperty, decide_eq_decide.2 ((left.mem_keys_iff_isSome key).trans
    (same ▸ (right.mem_keys_iff_isSome key).symm))]

end ObjectMap

end Opentrons.DiscoveryClient
