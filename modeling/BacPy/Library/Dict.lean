import Mathlib.Algebra.Order.BigOperators.Group.List
import Mathlib.Algebra.Order.Ring.Nat
import Mathlib.Data.List.AList

/-! Python dictionaries as finite maps, and the counting loop over their integer keys.

Only lookups and membership are used, so the order of the entries carries no meaning here.
-/

namespace BacPy.Library

/-- A finite map from keys to values of one type. -/
structure Dict (Key Value : Type*) where
  entries : AList fun _ : Key => Value

namespace Dict

variable {Key Value : Type*} [DecidableEq Key]

/-- `{}` -/
def empty : Dict Key Value := ⟨∅⟩

/-- `dict.get(key)` -/
def get (dict : Dict Key Value) (key : Key) : Option Value := AList.lookup key dict.entries

/-- `dict[key] = value` -/
def set (dict : Dict Key Value) (key : Key) (value : Value) : Dict Key Value :=
  ⟨AList.insert key value dict.entries⟩

/-- `dict.pop(key, None)` -/
def pop (dict : Dict Key Value) (key : Key) : Dict Key Value := ⟨AList.erase key dict.entries⟩

/-- The keys in use; they are distinct. -/
def keys (dict : Dict Key Value) : List Key := dict.entries.keys

@[simp] theorem get_empty (key : Key) : (empty : Dict Key Value).get key = none := rfl

@[simp] theorem get_set_self (dict : Dict Key Value) (key : Key) (value : Value)
    : (dict.set key value).get key = some value :=
  AList.lookup_insert dict.entries

theorem get_set_ne {dict : Dict Key Value} {key other : Key} {value : Value}
    (different : other ≠ key)
    : (dict.set key value).get other = dict.get other :=
  AList.lookup_insert_ne different

theorem get_set (dict : Dict Key Value) (key other : Key) (value : Value)
    : (dict.set key value).get other = if other = key then some value else dict.get other := by
  split
  · next same => exact same ▸ get_set_self dict key value
  · next different => exact get_set_ne different

/-- The last of two assignments under one key counts. -/
theorem set_set (dict : Dict Key Value) (key : Key) (first second : Value)
    : (dict.set key first).set key second = dict.set key second := by
  rw [set, set, set, AList.insert_insert]

@[simp] theorem get_pop_self (dict : Dict Key Value) (key : Key)
    : (dict.pop key).get key = none :=
  AList.lookup_erase key dict.entries

theorem get_pop_ne {dict : Dict Key Value} {key other : Key} (different : other ≠ key)
    : (dict.pop key).get other = dict.get other :=
  AList.lookup_erase_ne different

theorem get_pop (dict : Dict Key Value) (key other : Key)
    : (dict.pop key).get other = if other = key then none else dict.get other := by
  split
  · next same => exact same ▸ get_pop_self dict key
  · next different => exact get_pop_ne different

theorem mem_keys_iff {dict : Dict Key Value} {key : Key}
    : key ∈ dict.keys ↔ (dict.get key).isSome :=
  AList.mem_keys.symm.trans AList.lookup_isSome.symm

-- Counting past consecutive integer keys

variable {Value : Type*}

/-- `while start in dict: start += 1`, for at most `fuel` rounds. -/
def skipPresent (dict : Dict Nat Value) : Nat → Nat → Nat
  | 0, start => start
  | fuel + 1, start =>
    if (dict.get start).isSome then skipPresent dict fuel (start + 1) else start

/-- `while start in dict: start += 1`. The loop ends within as many rounds as the
dictionary has entries (`get_firstAbsent`).
-/
def firstAbsent (dict : Dict Nat Value) (start : Nat) : Nat :=
  skipPresent dict dict.keys.length start

theorem le_skipPresent (dict : Dict Nat Value) (fuel start : Nat)
    : start ≤ skipPresent dict fuel start := by
  induction fuel generalizing start with
  | zero => exact Nat.le_refl _
  | succ fuel ih =>
    unfold skipPresent
    split
    · exact Nat.le_trans (Nat.le_succ _) (ih _)
    · exact Nat.le_refl _

/-- Every index the loop passes is a key of the dictionary. -/
theorem skipPresent_present (dict : Dict Nat Value) (fuel start : Nat) {index}
    (lower : start ≤ index) (upper : index < skipPresent dict fuel start)
    : (dict.get index).isSome := by
  induction fuel generalizing start with
  | zero => exact absurd upper (by simp only [skipPresent]; omega)
  | succ fuel ih =>
    unfold skipPresent at upper
    split at upper
    · next present =>
        by_cases same : index = start
        · exact same ▸ present
        · exact ih (start + 1) (by omega) upper
    · omega

/-- The loop stops early at an absent index, or else uses up its rounds. -/
theorem skipPresent_stops (dict : Dict Nat Value) (fuel start : Nat)
    : dict.get (skipPresent dict fuel start) = none
      ∨ skipPresent dict fuel start = start + fuel := by
  induction fuel generalizing start with
  | zero => exact Or.inr rfl
  | succ fuel ih =>
    unfold skipPresent
    split
    · rcases ih (start + 1) with absent | used
      · exact Or.inl absent
      · exact Or.inr (by omega)
    · next absent => exact Or.inl (by simpa using absent)

theorem le_firstAbsent (dict : Dict Nat Value) (start : Nat)
    : start ≤ dict.firstAbsent start :=
  le_skipPresent ..

theorem firstAbsent_present (dict : Dict Nat Value) (start : Nat) {index : Nat}
    (lower : start ≤ index) (upper : index < dict.firstAbsent start)
    : (dict.get index).isSome :=
  skipPresent_present dict _ start lower upper

/-- The loop really ends at an absent index: more rounds would need more distinct keys than
the dictionary has.
-/
theorem get_firstAbsent (dict : Dict Nat Value) (start : Nat)
    : dict.get (dict.firstAbsent start) = none := by
  rcases skipPresent_stops dict dict.keys.length start with absent | used
  · exact absent
  · by_contra present
    have covered : (List.range' start (dict.keys.length + 1)).Subset dict.keys := by
      intro index member
      rw [List.mem_range'_1] at member
      apply mem_keys_iff.mpr
      by_cases last : index = start + dict.keys.length
      · rw [last, ← used]
        exact Option.isSome_iff_ne_none.mpr present
      · exact skipPresent_present dict dict.keys.length start member.1 (by omega)
    have bound := (List.nodup_range' 1).length_le_of_subset covered
    rw [List.length_range'] at bound
    omega

end Dict

end BacPy.Library

/-! The sum of a measure over the values of a dictionary. -/

namespace BacPy.Library.Dict

variable {Key Value : Type*} [DecidableEq Key]

def total (dict : Dict Key Value) (measure : Value → Nat) : Nat :=
  (dict.keys.map fun key => ((dict.get key).map measure).getD 0).sum

/-- An assignment exchanges the part of the value that was there, if any. -/
theorem total_set (dict : Dict Key Value) (measure : Value → Nat) (key : Key) (value : Value)
    : (dict.set key value).total measure + ((dict.get key).map measure).getD 0
      = dict.total measure + measure value := by
  have keys : (dict.set key value).keys = key :: dict.keys.erase key := AList.keys_insert dict.entries
  have others : (dict.keys.erase key).map (fun other => (((dict.set key value).get other).map measure).getD 0)
      = (dict.keys.erase key).map fun other => ((dict.get other).map measure).getD 0 := by
    refine List.map_congr_left fun other member => ?_
    have different := ((dict.entries.keys_nodup.mem_erase_iff).mp member).1
    rw [get_set_ne different]
  unfold total
  rw [keys, List.map_cons, List.sum_cons, others, get_set_self]
  by_cases there : key ∈ dict.keys
  · have parts := ((List.perm_cons_erase there).map fun other =>
      ((dict.get other).map measure).getD 0).sum_eq
    rw [List.map_cons, List.sum_cons] at parts
    rw [parts, Option.map_some, Option.getD_some]
    omega
  · have absent : dict.get key = none := by simpa [mem_keys_iff] using there
    rw [List.erase_of_not_mem there, absent, Option.map_some, Option.getD_some, Option.map_none,
      Option.getD_none]
    omega

/-- A dictionary with keys from a list has no more than the list. -/
theorem total_le (dict : Dict Key Value) {measure : Value → Nat} {keys : List Key} {most : Key → Nat}
    (covered : ∀ key value, dict.get key = some value → key ∈ keys ∧ measure value ≤ most key)
    : dict.total measure ≤ (keys.map most).sum := by
  have bounded : dict.total measure ≤ (dict.keys.map most).sum := by
    refine List.sum_le_sum fun key member => ?_
    obtain ⟨value, found⟩ := Option.isSome_iff_exists.mp (mem_keys_iff.mp member)
    rw [found, Option.map_some, Option.getD_some]
    exact (covered key value found).2
  have inside : dict.keys ⊆ keys := by
    intro key member
    obtain ⟨value, found⟩ := Option.isSome_iff_exists.mp (mem_keys_iff.mp member)
    exact (covered key value found).1
  obtain ⟨same, perm, sub⟩ := List.subperm_of_subset dict.entries.keys_nodup inside
  calc dict.total measure
      ≤ (dict.keys.map most).sum := bounded
    _ = (same.map most).sum := ((perm.map most).sum_eq).symm
    _ ≤ (keys.map most).sum := (sub.map most).sum_le_sum fun _ _ => Nat.zero_le _

end BacPy.Library.Dict
