import BacPy.Library.GroupedIndex

/-! A table of leased items: bounded, indexed by groups of keys, and with a timer for each item
that ends its lease.

Items are objects, which the table and the index refer to by a number. A timer knows only the
key it will remove; `Consistent` says that the item it finds under that key is the very one it
was set for.
-/

namespace BacPy.Library

variable {Group Key Item : Type*} [DecidableEq Group] [DecidableEq Key]

/-- The entries of a dictionary that are its values. -/
def Dict.values (dict : Dict Key Item) : List Item := dict.keys.filterMap dict.get

theorem Dict.mem_values {dict : Dict Key Item} {item : Item}
    : item ∈ dict.values ↔ ∃ key, dict.get key = some item := by
  rw [Dict.values, List.mem_filterMap]
  constructor
  · rintro ⟨key, _, found⟩
    exact ⟨key, found⟩
  · rintro ⟨key, found⟩
    exact ⟨key, Dict.mem_keys_iff.mpr (by simp [found]), found⟩

/-- A table with its index, the objects both refer to, and the pending timers: for each object
that has one, the key that it will remove.
-/
structure LeaseTable (Group Key Item : Type*) where
  capacity : Nat
  table : Dict Key Nat := .empty
  index : GroupedIndex Group Key Nat := .empty
  items : Dict Nat Item := .empty
  timers : Dict Nat Key := .empty
  fresh : Nat := 0

namespace LeaseTable

-- Operations

/-- The object under a key. -/
def find? (leases : LeaseTable Group Key Item) (key : Key) : Option Nat := leases.table.get key

/-- A new key does not fit. -/
def isFull (leases : LeaseTable Group Key Item) (key : Key) : Prop :=
  leases.find? key = none ∧ leases.capacity ≤ leases.table.size

instance (leases : LeaseTable Group Key Item) (key : Key) : Decidable (leases.isFull key) :=
  inferInstanceAs (Decidable (_ ∧ _))

/-- Cancel the timer of the object under a key, if there are such an object and timer. -/
def cancelTimer (leases : LeaseTable Group Key Item) (key : Key) : LeaseTable Group Key Item :=
  match leases.find? key with
  | none => leases
  | some ref => { leases with timers := leases.timers.pop ref }

/-- Put a new object under a key, in the place of an older one if there is one. -/
def store (leases : LeaseTable Group Key Item) (group : Group) (key : Key) (item : Item)
    : LeaseTable Group Key Item :=
  { leases with
    table := leases.table.set key leases.fresh
    index := leases.index.insert group key leases.fresh
    items := leases.items.set leases.fresh item
    fresh := leases.fresh + 1 }

/-- Set a timer for the object under a key. -/
def arm (leases : LeaseTable Group Key Item) (key : Key) : LeaseTable Group Key Item :=
  match leases.find? key with
  | none => leases
  | some ref => { leases with timers := leases.timers.set ref key }

/-- Change an object in place. -/
def update (leases : LeaseTable Group Key Item) (ref : Nat) (change : Item → Item)
    : LeaseTable Group Key Item :=
  match leases.items.get ref with
  | none => leases
  | some item => { leases with items := leases.items.set ref (change item) }

/-- Take the object under a key out of the table and the bucket of a group. -/
def discard (leases : LeaseTable Group Key Item) (group : Group) (key : Key)
    : LeaseTable Group Key Item :=
  { leases with table := leases.table.pop key, index := leases.index.remove group key }

/-- The lease under a key is given up. -/
def cancel (leases : LeaseTable Group Key Item) (group : Group) (key : Key)
    : LeaseTable Group Key Item :=
  match leases.find? key with
  | none => leases
  | some _ => (leases.cancelTimer key).discard group key

/-- The timer of an object fires: it removes whatever it finds under its key, from the bucket of
the group this object names.
-/
def expire (leases : LeaseTable Group Key Item) (itemGroup : Item → Group) (ref : Nat)
    : Option (LeaseTable Group Key Item) :=
  (leases.timers.get ref).map fun key =>
    let leases := { leases with timers := leases.timers.pop ref }
    match (leases.find? key).bind leases.items.get with
    | none => { leases with table := leases.table.pop key }
    | some item => leases.discard (itemGroup item) key

def dropGroup (leases : LeaseTable Group Key Item) (group : Group) : LeaseTable Group Key Item :=
  match leases.index.get group with
  | none => leases
  | some bucket =>
    { leases with
      index := leases.index.pop group
      table := leases.table.popAll bucket.keys
      timers := leases.timers.popAll bucket.values }

def dropGroups (leases : LeaseTable Group Key Item) (test : Group → Bool)
    : LeaseTable Group Key Item :=
  (leases.index.keys.filter test).foldl dropGroup leases

def clear (leases : LeaseTable Group Key Item) : LeaseTable Group Key Item :=
  { leases with
    timers := leases.timers.popAll leases.table.values
    table := .empty
    index := .empty }

-- Consistency

/-- The index is the table by groups, the table is within its capacity, both refer to objects
that belong to their group, and a pending timer will find the object it was set for.
-/
structure Consistent (groupOf : Key → Group) (itemGroup : Item → Group) (capacity : Nat)
    (leases : LeaseTable Group Key Item)
    : Prop where
  indexes : Indexes groupOf leases.table leases.index
  sameCapacity : leases.capacity = capacity
  withinCapacity : leases.table.size ≤ capacity
  refersTo : ∀ key ref, leases.table.get key = some ref
    → ref < leases.fresh ∧ ∃ item, leases.items.get ref = some item ∧ itemGroup item = groupOf key
  armedFor : ∀ ref key, leases.timers.get ref = some key → leases.table.get key = some ref

variable {groupOf : Key → Group} {itemGroup : Item → Group} {capacity : Nat}
  {leases : LeaseTable Group Key Item}

theorem Consistent.empty (capacity : Nat)
    : ({ capacity } : LeaseTable Group Key Item).Consistent groupOf itemGroup capacity where
  indexes := Indexes.empty
  sameCapacity := rfl
  withinCapacity := Nat.zero_le _
  refersTo key ref found := by simp at found
  armedFor ref key pending := by simp at pending

/-- Fewer pending timers leave everything else as it is. -/
theorem Consistent.withTimers (consistent : leases.Consistent groupOf itemGroup capacity) {timers}
    (fewer : ∀ ref key, timers.get ref = some key → leases.timers.get ref = some key)
    : ({ leases with timers } : LeaseTable Group Key Item).Consistent groupOf itemGroup capacity where
  indexes := consistent.indexes
  sameCapacity := consistent.sameCapacity
  withinCapacity := consistent.withinCapacity
  refersTo := consistent.refersTo
  armedFor ref key pending := consistent.armedFor ref key (fewer ref key pending)

theorem get_of_get_pop {Value : Type*} {timers : Dict Nat Value} {popped ref : Nat}
    {value : Value} (pending : (timers.pop popped).get ref = some value)
    : timers.get ref = some value := by
  rw [Dict.get_pop] at pending
  split at pending
  · cases pending
  · exact pending

theorem Consistent.cancelTimer (consistent : leases.Consistent groupOf itemGroup capacity) (key : Key)
    : (leases.cancelTimer key).Consistent groupOf itemGroup capacity := by
  unfold LeaseTable.cancelTimer
  cases leases.find? key with
  | none => exact consistent
  | some ref => exact consistent.withTimers fun other another pending => get_of_get_pop pending

/-- After the timer under a key is cancelled, no pending timer names that key. -/
theorem Consistent.cancelTimer_disarms (consistent : leases.Consistent groupOf itemGroup capacity)
    (key : Key) (ref : Nat)
    : (leases.cancelTimer key).timers.get ref ≠ some key := by
  intro pending
  have found : leases.table.get key = some ref := by
    have armed := (consistent.cancelTimer key).armedFor ref key pending
    unfold LeaseTable.cancelTimer at armed
    cases stored : leases.find? key <;> simpa [stored] using armed
  rw [LeaseTable.cancelTimer, find?, found] at pending
  simp at pending

omit [DecidableEq Group] in

omit [DecidableEq Group] in
theorem isFull_cancelTimer (leases : LeaseTable Group Key Item) (key other : Key)
    : (leases.cancelTimer key).isFull other ↔ leases.isFull other := by
  unfold cancelTimer
  cases found : leases.find? key <;> rfl

/-- A new object under a key that no pending timer names, when there is room for the key. -/
theorem Consistent.store (consistent : leases.Consistent groupOf itemGroup capacity) {key item}
    (belongs : itemGroup item = groupOf key) (room : ¬ leases.isFull key)
    (disarmed : ∀ ref, leases.timers.get ref ≠ some key)
    : (leases.store (groupOf key) key item).Consistent groupOf itemGroup capacity where
  indexes := consistent.indexes.insert key leases.fresh
  sameCapacity := consistent.sameCapacity
  withinCapacity := by
    have within := consistent.withinCapacity
    dsimp only [LeaseTable.store]
    cases found : leases.table.get key with
    | some ref => rw [Dict.size_set_of_present _ (by simp [found])]; exact within
    | none =>
      rw [Dict.size_set_of_absent _ found]
      have notFull : ¬ leases.capacity ≤ leases.table.size := fun full => room ⟨found, full⟩
      rw [consistent.sameCapacity] at notFull
      omega
  refersTo other ref found := by
    dsimp only [LeaseTable.store] at found ⊢
    rw [Dict.get_set] at found
    split at found
    · next same =>
        cases found
        exact ⟨Nat.lt_succ_self _, item, Dict.get_set_self .., same ▸ belongs⟩
    · obtain ⟨older, stored, present, inGroup⟩ := consistent.refersTo other ref found
      refine ⟨Nat.lt_succ_of_lt older, stored, ?_, inGroup⟩
      rw [Dict.get_set_ne (Nat.ne_of_lt older)]
      exact present
  armedFor ref other pending := by
    dsimp only [LeaseTable.store] at pending ⊢
    have different : other ≠ key := fun same => disarmed ref (same ▸ pending)
    rw [Dict.get_set_ne different]
    exact consistent.armedFor ref other pending

/-- A timer set for the object under a key will find that object. -/
theorem Consistent.arm (consistent : leases.Consistent groupOf itemGroup capacity) (key : Key)
    : (leases.arm key).Consistent groupOf itemGroup capacity := by
  unfold LeaseTable.arm
  cases found : leases.find? key with
  | none => exact consistent
  | some stored =>
    refine ⟨consistent.indexes, consistent.sameCapacity, consistent.withinCapacity, consistent.refersTo, ?_⟩
    intro ref other pending
    dsimp only at pending ⊢
    rw [Dict.get_set] at pending
    split at pending
    · next same =>
        cases pending
        exact same ▸ found
    · exact consistent.armedFor ref other pending

/-- An object may change in place, as long as it stays in its group. -/
theorem Consistent.update (consistent : leases.Consistent groupOf itemGroup capacity) (ref : Nat)
    {change} (keepsGroup : ∀ item, itemGroup (change item) = itemGroup item)
    : (leases.update ref change).Consistent groupOf itemGroup capacity := by
  unfold LeaseTable.update
  cases present : leases.items.get ref with
  | none => exact consistent
  | some item =>
    refine ⟨consistent.indexes, consistent.sameCapacity, consistent.withinCapacity, ?_, consistent.armedFor⟩
    intro key other found
    obtain ⟨older, stored, kept, inGroup⟩ := consistent.refersTo key other found
    refine ⟨older, ?_⟩
    dsimp only
    by_cases same : other = ref
    · subst same
      obtain rfl : item = stored := Option.some.inj (present.symm.trans kept)
      exact ⟨change item, Dict.get_set_self .., (keepsGroup item).trans inGroup⟩
    · exact ⟨stored, (Dict.get_set_ne same).trans kept, inGroup⟩

/-- A key that no pending timer names may leave the table, together with its index entry. -/
theorem Consistent.discard (consistent : leases.Consistent groupOf itemGroup capacity) {key}
    (disarmed : ∀ ref, leases.timers.get ref ≠ some key)
    : (leases.discard (groupOf key) key).Consistent groupOf itemGroup capacity where
  indexes := consistent.indexes.remove key
  sameCapacity := consistent.sameCapacity
  withinCapacity := Nat.le_trans (Dict.size_pop_le ..) consistent.withinCapacity
  refersTo other ref found := consistent.refersTo other ref (by
    dsimp only [LeaseTable.discard] at found
    rw [Dict.get_pop] at found
    split at found
    · cases found
    · exact found)
  armedFor ref other pending := by
    have different : other ≠ key := fun same => disarmed ref (same ▸ pending)
    exact (Dict.get_pop_ne different).trans (consistent.armedFor ref other pending)

theorem Consistent.cancel (consistent : leases.Consistent groupOf itemGroup capacity) (key : Key)
    : (leases.cancel (groupOf key) key).Consistent groupOf itemGroup capacity := by
  unfold LeaseTable.cancel
  cases leases.find? key with
  | none => exact consistent
  | some ref => exact (consistent.cancelTimer key).discard (consistent.cancelTimer_disarms key)

/-- A lease that is given up is gone with its timer, and the others are not. -/
theorem Consistent.cancel_ends (consistent : leases.Consistent groupOf itemGroup capacity) (key : Key)
    : (leases.cancel (groupOf key) key).find? key = none
      ∧ (∀ ref, (leases.cancel (groupOf key) key).timers.get ref ≠ some key)
      ∧ (∀ other, other ≠ key →
        (leases.cancel (groupOf key) key).find? other = leases.find? other)
      ∧ (leases.cancel (groupOf key) key).items = leases.items := by
  have disarmed := consistent.cancelTimer_disarms key
  unfold LeaseTable.cancel LeaseTable.cancelTimer at *
  cases found : leases.find? key with
  | none =>
    rw [found] at disarmed
    exact ⟨found, disarmed, fun _ _ => rfl, rfl⟩
  | some ref =>
    rw [found] at disarmed
    exact ⟨Dict.get_pop_self .., disarmed, fun _ different => Dict.get_pop_ne different, rfl⟩

/-- A timer removes the object it was set for, which is the one it finds under its key. -/
theorem Consistent.expire (consistent : leases.Consistent groupOf itemGroup capacity) {ref : Nat}
    {next : LeaseTable Group Key Item} (expired : leases.expire itemGroup ref = some next)
    : next.Consistent groupOf itemGroup capacity := by
  obtain ⟨key, pending, rfl⟩ := Option.map_eq_some_iff.mp expired
  have found : leases.table.get key = some ref := consistent.armedFor ref key pending
  obtain ⟨_, item, present, inGroup⟩ := consistent.refersTo key ref found
  have popped : ({ leases with timers := leases.timers.pop ref }
      : LeaseTable Group Key Item).Consistent groupOf itemGroup capacity :=
    consistent.withTimers fun _ _ kept => get_of_get_pop kept
  have lookup : (({ leases with timers := leases.timers.pop ref }
      : LeaseTable Group Key Item).find? key).bind leases.items.get = some item := by
    rw [find?, found]
    exact present
  dsimp only at lookup ⊢
  rw [lookup]
  dsimp only
  rw [inGroup]
  apply popped.discard
  intro other kept
  have same : leases.table.get key = some other := popped.armedFor other key kept
  obtain rfl : ref = other := Option.some.inj (found.symm.trans same)
  simp at kept

/-- A timer that fires leaves the entries of all other objects in the table. -/
theorem Consistent.expire_keeps (consistent : leases.Consistent groupOf itemGroup capacity)
    {ref other : Nat} {key : Key} {next : LeaseTable Group Key Item}
    (expired : leases.expire itemGroup ref = some next) (different : other ≠ ref)
    (stored : leases.table.get key = some other)
    : next.table.get key = some other := by
  obtain ⟨named, pending, rfl⟩ := Option.map_eq_some_iff.mp expired
  have found : leases.table.get named = some ref := consistent.armedFor ref named pending
  have elsewhere : key ≠ named := by
    rintro rfl
    exact different (Option.some.inj (stored.symm.trans found))
  have kept : (leases.table.pop named).get key = some other :=
    (Dict.get_pop_ne elsewhere).trans stored
  dsimp only
  split <;> exact kept

theorem Consistent.dropGroup (consistent : leases.Consistent groupOf itemGroup capacity) (group : Group)
    : (leases.dropGroup group).Consistent groupOf itemGroup capacity := by
  unfold LeaseTable.dropGroup
  cases found : leases.index.get group with
  | none => exact consistent
  | some bucket =>
    have get_of_kept : ∀ key ref, (leases.table.popAll bucket.keys).get key = some ref
        → leases.table.get key = some ref := by
      intro key ref kept
      rw [Dict.get_popAll] at kept
      split at kept
      · cases kept
      · exact kept
    refine ⟨consistent.indexes.drop found, consistent.sameCapacity,
      Nat.le_trans (Dict.size_popAll_le ..) consistent.withinCapacity,
      fun key ref kept => consistent.refersTo key ref (get_of_kept key ref kept), ?_⟩
    intro ref key pending
    dsimp only at pending ⊢
    rw [Dict.get_popAll] at pending
    split at pending
    · cases pending
    · next outside =>
        have stored := consistent.armedFor ref key pending
        have notInBucket : key ∉ bucket.keys := by
          intro member
          obtain ⟨other, inBucket⟩ := Option.isSome_iff_exists.mp (Dict.mem_keys_iff.mp member)
          have exact_ := consistent.indexes.exact group key
          rw [GroupedIndex.find, found, Option.bind_some, inBucket] at exact_
          split at exact_
          · rw [stored] at exact_
            cases exact_
            exact outside (Dict.mem_values.mpr ⟨key, inBucket⟩)
          · cases exact_
        rw [Dict.get_popAll, if_neg notInBucket]
        exact stored

theorem Consistent.dropGroups (consistent : leases.Consistent groupOf itemGroup capacity)
    (test : Group → Bool)
    : (leases.dropGroups test).Consistent groupOf itemGroup capacity := by
  unfold LeaseTable.dropGroups
  generalize leases.index.keys.filter test = groups
  induction groups generalizing leases with
  | nil => exact consistent
  | cons group rest ih => exact ih (consistent.dropGroup group)

theorem Consistent.clear (consistent : leases.Consistent groupOf itemGroup capacity)
    : leases.clear.Consistent groupOf itemGroup capacity where
  indexes := Indexes.empty
  sameCapacity := consistent.sameCapacity
  withinCapacity := Nat.zero_le _
  refersTo key ref found := by simp [LeaseTable.clear] at found
  armedFor ref key pending := by
    dsimp only [LeaseTable.clear] at pending
    rw [Dict.get_popAll] at pending
    split at pending
    · cases pending
    · next outside =>
        exact absurd (Dict.mem_values.mpr ⟨key, consistent.armedFor ref key pending⟩) outside

end LeaseTable

end BacPy.Library
