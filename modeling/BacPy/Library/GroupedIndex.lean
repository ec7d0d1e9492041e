import BacPy.Library.Dict

/-! A secondary index over a table: its entries again, in one bucket for each group of keys.

Buckets appear with their first entry and disappear with their last one. `Indexes` says that
the index is exactly the table by groups; every operation on the pair keeps it.
-/

namespace BacPy.Library

namespace Dict

variable {Key Value : Type*} [DecidableEq Key]

/-- `len(dict)` -/
def size (dict : Dict Key Value) : Nat := dict.keys.length

/-- `not dict` -/
def isEmpty (dict : Dict Key Value) : Bool := dict.keys.isEmpty

/-- `for key in keys: dict.pop(key, None)` -/
def popAll (dict : Dict Key Value) (keys : List Key) : Dict Key Value := keys.foldl pop dict

/-- `dict[key] = value` for a dictionary whose order is used: a key that is present keeps its
place, a new one goes in front of `keys`, which lists the latest key first.
-/
def assign (dict : Dict Key Value) (key : Key) (value : Value) : Dict Key Value :=
  if (dict.get key).isSome then ⟨AList.replace key value dict.entries⟩ else dict.set key value

/-- Replacing an entry in place is seen by lookups as a write, by induction on the entries. -/
theorem dlookup_kreplace (entries : List (Sigma fun _ : Key => Value)) (key other : Key)
    (value : Value)
    : (List.kreplace key value entries).dlookup other
      = if other = key then (entries.dlookup key).map fun _ => value
        else entries.dlookup other := by
  induction entries with
  | nil =>
    rw [List.kreplace, List.lookmap_nil]
    simp
  | cons entry rest ih =>
    obtain ⟨first, old⟩ := entry
    by_cases same : key = first
    · subst same
      rw [List.kreplace, List.lookmap_cons_some _ _ (by simp; rfl)]
      by_cases asked : other = key
      · subst asked
        simp
      · simp [asked]
    · have skipped : List.kreplace key value (⟨first, old⟩ :: rest)
          = ⟨first, old⟩ :: List.kreplace key value rest := by
        rw [List.kreplace, List.lookmap_cons_none _ _ (by simp [same])]
      rw [skipped]
      by_cases asked : other = first
      · subst asked
        simp [Ne.symm same]
      · have skip : ∀ wanted ≠ first, ∀ later : List (Sigma fun _ : Key => Value),
            (⟨first, old⟩ :: later : List (Sigma fun _ : Key => Value)).dlookup wanted
              = later.dlookup wanted :=
          fun wanted different later => List.dlookup_cons_ne later ⟨first, old⟩ different
        rw [skip other asked, skip other asked, skip key same, ih]

theorem get_assign (dict : Dict Key Value) (key other : Key) (value : Value)
    : (dict.assign key value).get other = if other = key then some value else dict.get other := by
  unfold assign
  by_cases present : (dict.get key).isSome
  · obtain ⟨old, found⟩ := Option.isSome_iff_exists.mp present
    rw [if_pos present]
    have replaced := dlookup_kreplace dict.entries.entries key other value
    have old_ : dict.entries.entries.dlookup key = some old := found
    rw [old_, Option.map_some] at replaced
    exact replaced
  · rw [if_neg present]
    exact get_set dict key other value

theorem isEmpty_iff {dict : Dict Key Value}
    : dict.isEmpty ↔ ∀ key, dict.get key = none := by
  rw [isEmpty, List.isEmpty_iff, List.eq_nil_iff_forall_not_mem]
  simp only [mem_keys_iff, Bool.not_eq_true, Option.isSome_eq_false_iff, Option.isNone_iff_eq_none]

theorem get_popAll (dict : Dict Key Value) (keys : List Key) (key : Key)
    : (dict.popAll keys).get key = if key ∈ keys then none else dict.get key := by
  induction keys generalizing dict with
  | nil => simp [popAll]
  | cons first rest ih =>
    have step : dict.popAll (first :: rest) = (dict.pop first).popAll rest := rfl
    rw [step, ih, get_pop]
    by_cases later : key ∈ rest
    · simp [later]
    · by_cases same : key = first <;> simp [later, same]

/-- Replacing an entry leaves the number of entries as it is. -/
theorem size_set_of_present {dict : Dict Key Value} {key : Key} (value : Value)
    (present : (dict.get key).isSome)
    : (dict.set key value).size = dict.size := by
  have member : key ∈ dict.keys := mem_keys_iff.mpr present
  simp only [size, keys, set, AList.keys_insert] at member ⊢
  rw [List.length_cons, List.length_erase_of_mem member]
  have positive := List.length_pos_of_mem member
  omega

/-- A new entry adds one. -/
theorem size_set_of_absent {dict : Dict Key Value} {key : Key} (value : Value)
    (absent : dict.get key = none)
    : (dict.set key value).size = dict.size + 1 := by
  have notMember : key ∉ dict.keys := by simp [mem_keys_iff, absent]
  simp only [size, keys, set, AList.keys_insert] at notMember ⊢
  rw [List.length_cons, List.erase_of_not_mem notMember]

theorem size_pop_le (dict : Dict Key Value) (key : Key) : (dict.pop key).size ≤ dict.size := by
  simp only [size, keys, pop, AList.keys_erase]
  exact List.length_erase_le

theorem size_popAll_le (dict : Dict Key Value) (keys : List Key)
    : (dict.popAll keys).size ≤ dict.size := by
  induction keys generalizing dict with
  | nil => exact Nat.le_refl _
  | cons first rest ih => exact Nat.le_trans (ih (dict.pop first)) (size_pop_le dict first)

end Dict

/-- The entries of a table again, by groups. -/
abbrev GroupedIndex (Group Key Item : Type*) := Dict Group (Dict Key Item)

variable {Group Key Item : Type*} [DecidableEq Group] [DecidableEq Key]

namespace GroupedIndex

/-- `index.setdefault(group, {})[key] = item` -/
def insert (index : GroupedIndex Group Key Item) (group : Group) (key : Key) (item : Item)
    : GroupedIndex Group Key Item :=
  index.assign group (((index.get group).getD .empty).assign key item)

/-- Pop a key from the bucket of its group, and delete the bucket when that was its last key. -/
def remove (index : GroupedIndex Group Key Item) (group : Group) (key : Key)
    : GroupedIndex Group Key Item :=
  match index.get group with
  | none => index
  | some bucket =>
    let bucket := bucket.pop key
    if bucket.isEmpty then index.pop group else index.assign group bucket

def find (index : GroupedIndex Group Key Item) (group : Group) (key : Key) : Option Item :=
  (index.get group).bind fun bucket => bucket.get key

theorem find_insert (index : GroupedIndex Group Key Item) (group other : Group)
    (key another : Key) (item : Item)
    : (insert index group key item).find other another
      = if other = group ∧ another = key then some item else find index other another := by
  rw [find, insert, Dict.get_assign]
  by_cases same : other = group
  · subst same
    rw [if_pos rfl, Option.bind_some, Dict.get_assign]
    by_cases sameKey : another = key
    · simp [sameKey]
    · simp only [sameKey, if_false, and_false, find]
      cases index.get other <;> simp [Dict.get_empty]
  · simp [same, find]

theorem find_remove (index : GroupedIndex Group Key Item) (group other : Group)
    (key another : Key)
    : (remove index group key).find other another
      = if other = group ∧ another = key then none else find index other another := by
  unfold remove
  cases present : index.get group with
  | none =>
    dsimp only
    split
    · next same => simp [find, same.1, present]
    · rfl
  | some bucket =>
    dsimp only
    by_cases same : other = group
    · subst same
      by_cases empty : (bucket.pop key).isEmpty
      · have absent := Dict.isEmpty_iff.mp empty another
        rw [if_pos empty]
        by_cases sameKey : another = key
        · simp [find, sameKey]
        · rw [Dict.get_pop_ne sameKey] at absent
          simp [find, sameKey, present, absent]
      · rw [if_neg empty]
        simp [find, present, Dict.get_pop, Dict.get_assign]
    · by_cases empty : (bucket.pop key).isEmpty
      · simp [find, empty, same, Dict.get_pop_ne same]
      · simp [find, empty, same, Dict.get_assign]

end GroupedIndex

/-- The index holds exactly the table's entries, each in the bucket of its key's group and as
the same item, and no bucket is empty.
-/
structure Indexes (groupOf : Key → Group) (table : Dict Key Item)
    (index : GroupedIndex Group Key Item)
    : Prop where
  exact : ∀ group key,
    index.find group key = if groupOf key = group then table.get key else none
  inhabited : ∀ group bucket, index.get group = some bucket → bucket.isEmpty = false

namespace Indexes

variable {groupOf : Key → Group} {table : Dict Key Item} {index : GroupedIndex Group Key Item}

theorem empty : Indexes groupOf (Dict.empty : Dict Key Item) Dict.empty where
  exact group key := by simp [GroupedIndex.find]
  inhabited group bucket found := by simp at found

/-- An entry written to the table and to the bucket of its group. -/
theorem insert (indexes : Indexes groupOf table index) (key : Key) (item : Item)
    : Indexes groupOf (table.set key item) (index.insert (groupOf key) key item) where
  exact group other := by
    rw [GroupedIndex.find_insert, indexes.exact, Dict.get_set]
    by_cases same : other = key
    · subst same
      by_cases grouped : group = groupOf other
      · simp [grouped]
      · simp [grouped, Ne.symm grouped]
    · simp [same]
  inhabited group bucket found := by
    rw [GroupedIndex.insert, Dict.get_assign] at found
    split at found
    · cases found
      rw [Bool.eq_false_iff]
      intro isEmpty
      have absent := Dict.isEmpty_iff.mp isEmpty key
      simp [Dict.get_assign] at absent
    · exact indexes.inhabited group bucket found

/-- An entry removed from the table and from the bucket of its group. -/
theorem remove (indexes : Indexes groupOf table index) (key : Key)
    : Indexes groupOf (table.pop key) (index.remove (groupOf key) key) where
  exact group other := by
    rw [GroupedIndex.find_remove, indexes.exact, Dict.get_pop]
    by_cases same : other = key
    · subst same
      by_cases grouped : group = groupOf other <;> simp [grouped, eq_comm]
    · simp [same]
  inhabited group bucket found := by
    unfold GroupedIndex.remove at found
    cases present : index.get (groupOf key) with
    | none =>
      rw [present] at found
      exact indexes.inhabited group bucket found
    | some old =>
      rw [present] at found
      dsimp only at found
      by_cases isEmpty : (old.pop key).isEmpty
      · rw [if_pos isEmpty, Dict.get_pop] at found
        split at found
        · cases found
        · exact indexes.inhabited group bucket found
      · rw [if_neg isEmpty, Dict.get_assign] at found
        split at found
        · cases found
          simpa using isEmpty
        · exact indexes.inhabited group bucket found

/-- A whole bucket dropped, and its keys popped from the table. -/
theorem drop (indexes : Indexes groupOf table index) {group bucket}
    (found : index.get group = some bucket)
    : Indexes groupOf (table.popAll bucket.keys) (index.pop group) where
  exact other key := by
    have inBucket : key ∈ bucket.keys ↔ groupOf key = group ∧ (table.get key).isSome := by
      have stored := indexes.exact group key
      rw [GroupedIndex.find, found, Option.bind_some] at stored
      rw [Dict.mem_keys_iff, stored]
      split
      · next grouped => simp [grouped]
      · next grouped => simp [grouped]
    have unchanged := indexes.exact other key
    rw [GroupedIndex.find] at unchanged
    rw [GroupedIndex.find, Dict.get_pop, Dict.get_popAll]
    by_cases same : other = group
    · subst same
      rw [if_pos rfl]
      by_cases grouped : groupOf key = other
      · cases present : table.get key <;> simp [inBucket, grouped, present]
      · simp [grouped]
    · have outside : groupOf key = other → key ∉ bucket.keys := by
        intro grouped member
        exact same (grouped.symm.trans (inBucket.mp member).1)
      rw [if_neg same, unchanged]
      by_cases grouped : groupOf key = other
      · simp [grouped, outside grouped]
      · simp [grouped]
  inhabited other kept present := by
    rw [Dict.get_pop] at present
    split at present
    · cases present
    · exact indexes.inhabited other kept present

end Indexes

end BacPy.Library
