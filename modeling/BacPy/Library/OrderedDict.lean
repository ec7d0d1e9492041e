import Mathlib.Data.List.MinMax
import Mathlib.Data.List.Nodup
import Mathlib.Data.List.Perm.Basic

/-! Python dictionaries whose order matters: finite maps that keep their entries in the order of
their insertion. An assignment to a key that is there keeps its place.
-/

namespace BacPy.Library

/-- Entries with distinct keys, in the order of their insertion. -/
structure OrderedDict (Key Value : Type*) where
  entries : List (Key × Value) := []
  distinct : (entries.map Prod.fst).Nodup := by exact List.nodup_nil
  deriving DecidableEq

namespace OrderedDict

variable {Key Value : Type*} [DecidableEq Key]

/-- `dict.get(key)` -/
def get (dict : OrderedDict Key Value) (key : Key) : Option Value :=
  (dict.entries.find? fun entry => entry.1 = key).map Prod.snd

def keys (dict : OrderedDict Key Value) : List Key := dict.entries.map Prod.fst

def values (dict : OrderedDict Key Value) : List Value := dict.entries.map Prod.snd

/-- `len(dict)` -/
def size (dict : OrderedDict Key Value) : Nat := dict.entries.length

def assign (entries : List (Key × Value)) (key : Key) (value : Value) : List (Key × Value) :=
  match entries with
  | [] => [(key, value)]
  | entry :: rest =>
    if entry.1 = key then (key, value) :: rest else entry :: assign rest key value

/-- An assignment adds no key but its own, by induction on the entries. -/
theorem mem_keys_assign {entries : List (Key × Value)} {key other : Key} {value : Value}
    : other ∈ (assign entries key value).map Prod.fst
      ↔ other = key ∨ other ∈ entries.map Prod.fst := by
  induction entries with
  | nil => simp [assign]
  | cons entry rest ih =>
    rw [assign]
    split
    · next same => simp [same]
    · simp only [List.map_cons, List.mem_cons, ih]
      tauto

theorem nodup_assign {entries : List (Key × Value)} {key : Key} {value : Value}
    (distinct : (entries.map Prod.fst).Nodup)
    : ((assign entries key value).map Prod.fst).Nodup := by
  induction entries with
  | nil => simp [assign]
  | cons entry rest ih =>
    rw [List.map_cons, List.nodup_cons] at distinct
    rw [assign]
    split
    · next same => simpa [← same] using distinct
    · next different =>
        rw [List.map_cons, List.nodup_cons, mem_keys_assign]
        exact ⟨not_or.mpr ⟨different, distinct.1⟩, ih distinct.2⟩

/-- `dict[key] = value` -/
def set (dict : OrderedDict Key Value) (key : Key) (value : Value) : OrderedDict Key Value where
  entries := assign dict.entries key value
  distinct := nodup_assign dict.distinct

/-- `dict.pop(key, None)` -/
def pop (dict : OrderedDict Key Value) (key : Key) : OrderedDict Key Value where
  entries := dict.entries.filter fun entry => entry.1 ≠ key
  distinct := (List.filter_sublist.map Prod.fst).nodup dict.distinct

variable {dict : OrderedDict Key Value} {key other : Key} {value : Value}

theorem find?_assign (entries) (key other : Key) (value : Value)
    : ((assign entries key value).find? fun entry => entry.1 = other).map Prod.snd
      = if other = key then some value
        else (entries.find? fun entry => entry.1 = other).map Prod.snd := by
  induction entries with
  | nil =>
    by_cases same : other = key
    · simp [assign, same]
    · simp [assign, same, Ne.symm same]
  | cons entry rest ih =>
    rw [assign]
    split
    · next here =>
        by_cases same : other = key
        · simp [same]
        · simp [same, Ne.symm same, here]
    · next elsewhere =>
        by_cases found : entry.1 = other
        · simp [found, found ▸ elsewhere]
        · simp [found, ih]

theorem get_set (dict : OrderedDict Key Value) (key other : Key) (value : Value)
    : (dict.set key value).get other = if other = key then some value else dict.get other :=
  find?_assign dict.entries key other value

@[simp] theorem get_set_self : (dict.set key value).get key = some value := by
  rw [get_set, if_pos rfl]

theorem get_set_ne (different : other ≠ key) : (dict.set key value).get other = dict.get other := by
  rw [get_set, if_neg different]

theorem get_pop (dict : OrderedDict Key Value) (key other : Key)
    : (dict.pop key).get other = if other = key then none else dict.get other := by
  unfold get pop
  rw [List.find?_filter]
  split
  · next same => simp [same]
  · next different =>
      congr 2
      funext entry
      by_cases found : entry.1 = other
      · simp [found, different]
      · simp [found]

@[simp] theorem get_pop_self : (dict.pop key).get key = none := by
  rw [get_pop, if_pos rfl]

theorem get_pop_ne (different : other ≠ key) : (dict.pop key).get other = dict.get other := by
  rw [get_pop, if_neg different]

/-- A dictionary has an entry exactly if the lookup finds its value, as keys are distinct. -/
theorem mem_entries : (key, value) ∈ dict.entries ↔ dict.get key = some value := by
  obtain ⟨entries, distinct⟩ := dict
  unfold get
  induction entries with
  | nil => simp
  | cons entry rest ih =>
    rw [List.map_cons, List.nodup_cons] at distinct
    have later := ih distinct.2
    by_cases here : entry.1 = key
    · have absent : (key, value) ∉ rest := fun member =>
        distinct.1 (here ▸ List.mem_map_of_mem member)
      simp only [List.mem_cons, absent, or_false, List.find?_cons, here, decide_true,
        Option.map_some, Option.some.injEq]
      constructor
      · rintro rfl
        rfl
      · rintro rfl
        rw [← here]
    · have different : (key, value) ≠ entry := fun same => here (same ▸ rfl)
      simp only [List.mem_cons, different, false_or, List.find?_cons, here, decide_false]
      exact later

theorem mem_values : value ∈ dict.values ↔ ∃ key, dict.get key = some value := by
  simp only [values, List.mem_map, Prod.exists, exists_eq_right, mem_entries]

theorem mem_keys : key ∈ dict.keys ↔ (dict.get key).isSome := by
  rw [Option.isSome_iff_exists]
  simp only [keys, List.mem_map, Prod.exists, exists_and_right, exists_eq_right, mem_entries]

theorem filter_entries_eq_singleton (holds) (found : dict.get key = some value)
    (here : holds (key, value) = true)
    (only : ∀ entry ∈ dict.entries, holds entry = true → entry = (key, value))
    : dict.entries.filter holds = [(key, value)] := by
  have nodup : dict.entries.Nodup := List.Nodup.of_map Prod.fst dict.distinct
  rw [← List.perm_singleton]
  refine (List.perm_ext_iff_of_nodup (nodup.filter _) (List.nodup_singleton _)).mpr fun entry => ?_
  rw [List.mem_filter, List.mem_singleton]
  constructor
  · rintro ⟨member, property⟩
    exact only entry member property
  · rintro rfl
    exact ⟨mem_entries.mpr found, here⟩

/-- A deletion leaves no more entries. -/
theorem size_pop_le : (dict.pop key).size ≤ dict.size := List.length_filter_le _ _

/-- An assignment to a new key adds one entry, by induction on the entries. -/
theorem size_set_of_none (absent : dict.get key = none)
    : (dict.set key value).size = dict.size + 1 := by
  have unassigned : ∀ entries : List (Key × Value), (∀ entry ∈ entries, entry.1 ≠ key)
      → (assign entries key value).length = entries.length + 1 := by
    intro entries different
    induction entries with
    | nil => rfl
    | cons entry rest ih =>
      rw [assign, if_neg (different entry List.mem_cons_self), List.length_cons, List.length_cons,
        ih fun other member => different other (List.mem_cons_of_mem _ member)]
  apply unassigned
  intro entry member same
  have found := mem_entries.mp (show (key, entry.2) ∈ dict.entries from same ▸ member)
  rw [absent] at found
  cases found

end OrderedDict

end BacPy.Library

/-! Deletions from a dictionary of dated values that spare the younger ones. -/

namespace BacPy.Library.OrderedDict

variable {Key Value Time : Type*} [DecidableEq Key] {dict before middle after : OrderedDict Key Value}
  {key other : Key} {value : Value}

-- Sizes

/-- An assignment to a key that is there adds nothing, by induction on the entries. -/
theorem size_set_of_some (there : (dict.get key).isSome)
    : (dict.set key value).size = dict.size := by
  have reassigned : ∀ entries : List (Key × Value), key ∈ entries.map Prod.fst
      → (assign entries key value).length = entries.length := by
    intro entries member
    induction entries with
    | nil => cases member
    | cons entry rest ih =>
      rw [assign]
      split
      · rfl
      · next elsewhere =>
          rcases List.mem_cons.mp member with here | later
          · exact absurd here.symm elsewhere
          · exact congrArg Nat.succ (ih later)
  exact reassigned dict.entries (mem_keys.mpr there)

/-- A deletion of a key that is there leaves fewer entries. -/
theorem size_pop_lt (there : dict.get key = some value) : (dict.pop key).size < dict.size := by
  refine List.length_filter_lt_length_iff_exists.mpr ⟨(key, value), mem_entries.mpr there, ?_⟩
  simp

-- Deletions of several keys

/-- Several deletions, by induction on the keys. -/
theorem get_foldl_pop (dict : OrderedDict Key Value) (keys : List Key) (key : Key)
    : (keys.foldl pop dict).get key = if key ∈ keys then none else dict.get key := by
  induction keys generalizing dict with
  | nil => rfl
  | cons first rest ih =>
    rw [List.foldl_cons, ih, get_pop]
    by_cases later : key ∈ rest
    · simp [later]
    · by_cases here : key = first
      · simp [here]
      · simp [later, here]

theorem size_foldl_pop_le (dict : OrderedDict Key Value) (keys : List Key)
    : (keys.foldl pop dict).size ≤ dict.size := by
  induction keys generalizing dict with
  | nil => exact Nat.le_refl _
  | cons first rest ih => exact Nat.le_trans (ih (dict.pop first)) size_pop_le

/-- A deletion of the entries with a property. -/
theorem get_pop_filter (holds : Key × Value → Bool)
    : (((dict.entries.filter holds).map Prod.fst).foldl pop dict).get key
      = (dict.get key).filter fun value => !holds (key, value) := by
  have chosen : key ∈ (dict.entries.filter holds).map Prod.fst
      ↔ ∃ value, dict.get key = some value ∧ holds (key, value) = true := by
    simp only [List.mem_map, List.mem_filter, Prod.exists, exists_and_right, exists_eq_right,
      mem_entries]
  rw [get_foldl_pop, if_congr chosen rfl rfl]
  cases found : dict.get key with
  | none => simp
  | some value => cases held : holds (key, value) <;> simp [Option.filter, held]

-- Aging

variable [LinearOrder Time] {date : Value → Time}

/-- `after` is `before` without entries that are as old as any that is left. -/
structure AgedOut (date : Value → Time) (before after : OrderedDict Key Value) : Prop where
  kept : ∀ {key value}, after.get key = some value → before.get key = some value
  oldest : ∀ {key value other left}, before.get key = some value → after.get key = none
    → after.get other = some left → date value ≤ date left

theorem AgedOut.refl (dict : OrderedDict Key Value) : AgedOut date dict dict where
  kept there := there
  oldest there gone _ := by
    rw [there] at gone
    cases gone

/-- Deletions compose: what the first one spares bounds what it took from above. -/
theorem AgedOut.trans (first : AgedOut date before middle) (second : AgedOut date middle after)
    : AgedOut date before after where
  kept there := first.kept (second.kept there)
  oldest := by
    intro key value other left there gone spared
    cases midway : middle.get key with
    | none => exact first.oldest there midway (second.kept spared)
    | some still =>
      have same : some value = some still := there.symm.trans (first.kept midway)
      rw [Option.some.inj same]
      exact second.oldest midway gone spared

theorem agedOut_pop_filter {stale} [DecidablePred stale]
    (older : ∀ {value left}, stale value → ¬ stale left → date value ≤ date left)
    : AgedOut date dict
        (((dict.entries.filter fun entry => stale entry.2).map Prod.fst).foldl pop dict) where
  kept there := by
    rw [get_pop_filter] at there
    exact (Option.filter_eq_some_iff.mp there).1
  oldest there gone spared := by
    rw [get_pop_filter, there, Option.filter_eq_none_iff] at gone
    rw [get_pop_filter] at spared
    have fresh := (Option.filter_eq_some_iff.mp spared).2
    exact older (by simpa using gone) (by simpa using fresh)

/-- The first entry with the smallest date is aged out. -/
theorem agedOut_pop_argmin {entry} (least : entry ∈ dict.entries.argmin fun entry => date entry.2)
    : AgedOut date dict (dict.pop entry.1) where
  kept {key value} there := by
    rw [get_pop] at there
    split at there
    · cases there
    · exact there
  oldest {key value other left} there gone spared := by
    have found : dict.get entry.1 = some entry.2 := mem_entries.mp (List.argmin_mem least)
    rw [get_pop] at gone spared
    split at gone
    · next same =>
        split at spared
        · cases spared
        · have leastValue : value = entry.2 := by
            rw [same, found] at there
            exact (Option.some.inj there).symm
          rw [leastValue]
          have member : (other, left) ∈ dict.entries := mem_entries.mpr spared
          exact @List.le_of_mem_argmin _ _ _ (fun entry => date entry.2) _ _ _ member least
    · rw [there] at gone
      cases gone

/-- What was deleted and what is left were all of the entries. -/
theorem AgedOut.length_add_size (aged : AgedOut date before after)
    : (before.entries.filter fun entry => (after.get entry.1).isNone).length + after.size
      = before.size := by
  have left : (before.entries.filter fun entry => (after.get entry.1).isSome).Perm
      after.entries := by
    have nodup : ∀ dict : OrderedDict Key Value, dict.entries.Nodup :=
      fun dict => List.Nodup.of_map Prod.fst dict.distinct
    refine (List.perm_ext_iff_of_nodup ((nodup before).filter _) (nodup after)).mpr fun entry => ?_
    rw [List.mem_filter, Option.isSome_iff_exists]
    constructor
    · rintro ⟨member, value, there⟩
      have same := (aged.kept there).symm.trans (mem_entries.mp member)
      rw [← Prod.eta entry, mem_entries, there, same]
    · intro member
      have there := mem_entries.mp member
      exact ⟨mem_entries.mpr (aged.kept there), entry.2, there⟩
  have split := List.length_eq_length_filter_add (l := before.entries)
    fun entry => (after.get entry.1).isSome
  rw [left.length_eq] at split
  simp only [Option.not_isSome] at split
  unfold size
  omega

end BacPy.Library.OrderedDict
