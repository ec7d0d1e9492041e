import Mathlib.Algebra.Group.Nat.Defs
import Mathlib.Data.List.Forall2
import Mathlib.Data.List.Induction

/-! Python byte strings and the exceptions their operations raise. -/

namespace BacPy

/-- The contents of a `bytes` object. -/
abbrev Bytes := List UInt8

/-- The built-in exceptions the modelled code raises or handles. -/
inductive PyException where
  | valueError (message : String)
  | indexError (message : String)
  | keyError (key : Nat)
  | runtimeError (message : String)
  | structError (message : String)
  | unboundLocalError (name : String)
  | assertionError
  | attributeError (name : String)
  deriving DecidableEq

/-- An exception that is a `ValueError`. -/
def PyException.isValueError : PyException → Bool
  | .valueError _ => true
  | _ => false

def OnlyValueErrors {Item : Type} (outcome : Except PyException Item) : Prop :=
  ∀ raised, outcome = .error raised → raised.isValueError = true

namespace OnlyValueErrors

variable {Item Result : Type}

theorem ok (item : Item) : OnlyValueErrors (.ok item) := nofun

theorem valueError (text : String)
    : OnlyValueErrors (.error (.valueError text) : Except PyException Item) := by
  rintro _ same
  cases same
  rfl

theorem bind {first : Except PyException Item} {next : Item → Except PyException Result}
    (here : OnlyValueErrors first) (later : ∀ item, OnlyValueErrors (next item))
    : OnlyValueErrors (first >>= next) := by
  cases first with
  | error raised => exact fun _ same => Except.error.inj same ▸ here raised rfl
  | ok item => exact later item

end OnlyValueErrors

/-- `data[offset]` on a memoryview. -/
def octetAt (data : Bytes) (offset : Nat) : Except PyException UInt8 :=
  match data[offset]? with
  | some octet => .ok octet
  | none => .error (.indexError "index out of bounds on dimension 1")

/-- `data[start:stop]` -/
def slice (data : Bytes) (start stop : Nat) : Bytes := (data.drop start).take (stop - start)

/-- One octet appended to a buffer; numbers outside `range(0, 256)` are refused. -/
def octet (value : Nat) : Except PyException UInt8 :=
  if value < 256 then .ok (UInt8.ofNat value)
  else .error (.valueError "byte must be in range(0, 256)")

/-- `int.from_bytes(data, "big")` -/
def fromBytes (data : Bytes) : Nat := data.foldl (fun value next => value * 256 + next.toNat) 0

/-- `value.to_bytes(size, "big")` for a value that fits. -/
def toBytes (value : Nat) : Nat → Bytes
  | 0 => []
  | size + 1 => toBytes (value / 256) size ++ [UInt8.ofNat (value % 256)]

/-- A chain of two fallible steps succeeds when both do. -/
theorem bind_eq_ok {Failure Item Result : Type} {first : Except Failure Item}
    {next : Item → Except Failure Result} {value : Result}
    : (first >>= next) = .ok value ↔ ∃ item, first = .ok item ∧ next item = .ok value := by
  cases first with
  | error failure => simp [bind, Except.bind]
  | ok item => simp [bind, Except.bind]

/-- A mapped fallible step succeeds when the step does. -/
theorem map_eq_ok {Failure Item Result : Type} {first : Except Failure Item}
    {next : Item → Result} {value : Result}
    : next <$> first = .ok value ↔ ∃ item, first = .ok item ∧ next item = value := by
  cases first with
  | error failure => simp [Functor.map, Except.map]
  | ok item => simp [Functor.map, Except.map]

/-- A loop of fallible steps succeeds when all of them do, by induction on the items. -/
theorem mapM_ok_iff {Failure Item Result : Type} {attempt : Item → Except Failure Result}
    {items : List Item} {results : List Result}
    : items.mapM attempt = .ok results
      ↔ List.Forall₂ (fun item result => attempt item = .ok result) items results := by
  induction items generalizing results with
  | nil =>
    rw [List.mapM_nil, List.forall₂_nil_left_iff]
    exact ⟨fun same => (Except.ok.inj same).symm, fun same => congrArg Except.ok same.symm⟩
  | cons item rest ih =>
    rw [List.mapM_cons, bind_eq_ok, List.forall₂_cons_left_iff]
    constructor
    · rintro ⟨first, here, later⟩
      obtain ⟨others, there, same⟩ := bind_eq_ok.mp later
      exact ⟨first, others, here, ih.mp there, (Except.ok.inj same).symm⟩
    · rintro ⟨first, others, here, there, rfl⟩
      exact ⟨first, here, bind_eq_ok.mpr ⟨others, ih.mpr there, rfl⟩⟩

theorem exists_mapM_ok_iff {Failure Item Result : Type} {attempt : Item → Except Failure Result}
    {items : List Item}
    : (∃ results, items.mapM attempt = .ok results)
      ↔ ∀ item ∈ items, ∃ result, attempt item = .ok result := by
  simp only [mapM_ok_iff]
  induction items with
  | nil => simp
  | cons item rest ih =>
    simp only [List.forall₂_cons_left_iff, List.forall_mem_cons, ← ih]
    constructor
    · rintro ⟨results, first, others, here, there, rfl⟩
      exact ⟨⟨first, here⟩, others, there⟩
    · rintro ⟨⟨first, here⟩, others, there⟩
      exact ⟨first :: others, first, others, here, there, rfl⟩

/-- Two loops, the second one over the results of the first, by induction on the items. -/
theorem exists_mapM_mapM_ok_iff {Failure Trouble Item Middle Result : Type}
    {attempt : Item → Except Failure Middle} {next : Middle → Except Trouble Result}
    {items : List Item}
    : (∃ middle, items.mapM attempt = .ok middle ∧ ∃ results, middle.mapM next = .ok results)
      ↔ ∀ item ∈ items, ∃ first, attempt item = .ok first ∧ ∃ result, next first = .ok result := by
  simp only [mapM_ok_iff]
  induction items with
  | nil => simp
  | cons item rest ih =>
    simp only [List.forall₂_cons_left_iff, List.forall_mem_cons, ← ih]
    constructor
    · rintro ⟨middle, ⟨first, others, here, there, rfl⟩, results, finished⟩
      obtain ⟨result, later, ended, endings, rfl⟩ := List.forall₂_cons_left_iff.mp finished
      exact ⟨⟨first, here, result, ended⟩, others, there, later, endings⟩
    · rintro ⟨⟨first, here, result, ended⟩, others, there, later, endings⟩
      exact ⟨first :: others, ⟨first, others, here, there, rfl⟩, result :: later,
        .cons ended endings⟩

@[simp] theorem octetAt_zero (first : UInt8) (rest : Bytes)
    : octetAt (first :: rest) 0 = .ok first :=
  rfl

@[simp] theorem octetAt_succ (first : UInt8) (rest : Bytes) (offset : Nat)
    : octetAt (first :: rest) (offset + 1) = octetAt rest offset :=
  rfl

theorem octet_ok {value} (small : value < 256)
    : octet value = .ok (UInt8.ofNat value) :=
  if_pos small

/-- The octet read at the border of two parts is the first one of the second part. -/
theorem octetAt_append (before after : Bytes) (offset : Nat)
    : octetAt (before ++ after) (before.length + offset) = octetAt after offset := by
  rw [octetAt, octetAt, List.getElem?_append_right (Nat.le_add_right _ _),
    Nat.add_sub_cancel_left]

/-- A slice that starts at the border and has the length of the middle part is that part. -/
theorem slice_append (before middle after : Bytes)
    : slice (before ++ (middle ++ after)) before.length (before.length + middle.length)
      = middle := by
  simp [slice]

@[simp] theorem length_toBytes (value size : Nat) : (toBytes value size).length = size := by
  induction size generalizing value with
  | zero => rfl
  | succ size ih => simp [toBytes, ih]

/-- Decoding the big-endian octets of a value that fits gives the value back. -/
theorem fromBytes_toBytes {value size} (fits : value < 256 ^ size)
    : fromBytes (toBytes value size) = value := by
  induction size generalizing value with
  | zero => simp only [Nat.pow_zero] at fits; simp [toBytes, fromBytes]; omega
  | succ size ih =>
    have high : value / 256 < 256 ^ size := by
      rw [Nat.pow_succ, Nat.mul_comm] at fits
      exact Nat.div_lt_of_lt_mul fits
    have later := ih high
    unfold fromBytes at later ⊢
    rw [toBytes, List.foldl_append, later]
    simp only [List.foldl_cons, List.foldl_nil, UInt8.toNat_ofNat']
    omega

section Reading

variable {data : Bytes}

/-- The big-endian octets of a number that was read are the octets it was read from, by induction
from the last one.
-/
theorem toBytes_fromBytes (data : Bytes) : toBytes (fromBytes data) data.length = data := by
  induction data using List.reverseRecOn with
  | nil => rfl
  | append_singleton front last ih =>
    have below := last.toNat_lt
    have value : fromBytes (front ++ [last]) = fromBytes front * 256 + last.toNat := by
      simp [fromBytes, List.foldl_append]
    have quotient : (fromBytes front * 256 + last.toNat) / 256 = fromBytes front := by omega
    have remainder : (fromBytes front * 256 + last.toNat) % 256 = last.toNat := by omega
    rw [List.length_append, List.length_singleton, toBytes, value, quotient, remainder, ih,
      UInt8.ofNat_toNat]

theorem fromBytes_lt (data : Bytes) : fromBytes data < 256 ^ data.length := by
  induction data using List.reverseRecOn with
  | nil => simp [fromBytes]
  | append_singleton front last ih =>
    have below := last.toNat_lt
    have value : fromBytes (front ++ [last]) = fromBytes front * 256 + last.toNat := by
      simp [fromBytes, List.foldl_append]
    rw [value, List.length_append, List.length_singleton, Nat.pow_succ]
    omega

theorem length_slice {offset size} (inside : offset + size ≤ data.length)
    : (slice data offset (offset + size)).length = size := by
  rw [slice, List.length_take, List.length_drop]
  omega

/-- Two octets that are there are the encoding of the number they stand for. -/
theorem twoOctets_read {offset} (inside : offset + 2 ≤ data.length)
    : fromBytes (slice data offset (offset + 2)) ≤ 0xFFFF
      ∧ toBytes (fromBytes (slice data offset (offset + 2))) 2
        = slice data offset (offset + 2) := by
  have size := length_slice inside
  have below := fromBytes_lt (slice data offset (offset + 2))
  have again := toBytes_fromBytes (slice data offset (offset + 2))
  rw [size] at below again
  exact ⟨by omega, again⟩

theorem drop_eq_slice_append {start stop} (ordered : start ≤ stop)
    : data.drop start = slice data start stop ++ data.drop stop := by
  have rest : data.drop stop = (data.drop start).drop (stop - start) := by
    rw [List.drop_drop, Nat.add_sub_cancel' ordered]
  rw [rest, slice, List.take_append_drop]

theorem drop_eq_cons {offset byte} (read : octetAt data offset = .ok byte)
    : data.drop offset = byte :: data.drop (offset + 1) := by
  unfold octetAt at read
  split at read
  · next found =>
      cases read
      obtain ⟨inside, rfl⟩ := List.getElem?_eq_some_iff.mp found
      exact List.drop_eq_getElem_cons inside
  · cases read

end Reading

end BacPy
