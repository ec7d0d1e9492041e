import BacPy.Encoding.Octets

/-! Tag headers (Clause 20.2.1): application and context tags, extended numbers and lengths. -/

namespace BacPy

inductive TagClass where
  | application | context
  deriving DecidableEq

/-- The class bit of the initial octet. -/
def TagClass.toNat : TagClass → Nat
  | .application => 0
  | .context => 1

/-- A decoded tag header: number, class and content length, or an opening or closing tag. -/
structure Tag where
  number : Nat
  cls : TagClass
  length : Nat
  isOpening : Bool := false
  isClosing : Bool := false

/-- `encode_tag`. The precomputed single-octet tags of the source are the values the general
formula gives for numbers up to 14 and lengths up to 4.
-/
def encodeTag (tagNumber : Nat) (cls : TagClass) (length : Nat) : Except PyException Bytes := do
  if 254 < tagNumber then
    .error (.valueError s!"Tag number must be 0-254, got {tagNumber}")
  else
    let initial := (if tagNumber ≤ 14 then tagNumber <<< 4 else 0x0F <<< 4) ||| cls.toNat <<< 3
    let number : Bytes := if tagNumber ≤ 14 then [] else [UInt8.ofNat tagNumber]
    if length ≤ 4 then
      .ok (UInt8.ofNat (initial ||| length) :: number)
    else if length ≤ 253 then
      .ok (UInt8.ofNat (initial ||| 5) :: number ++ [UInt8.ofNat length])
    else if length ≤ 65535 then
      .ok (UInt8.ofNat (initial ||| 5) :: number ++ [254] ++ toBytes length 2)
    else if length < 256 ^ 4 then
      .ok (UInt8.ofNat (initial ||| 5) :: number ++ [255] ++ toBytes length 4)
    else
      .error (.valueError "int too big to convert")

def encodeOpeningTag (tagNumber : Nat) : Bytes :=
  if tagNumber ≤ 14 then [UInt8.ofNat (tagNumber <<< 4 ||| 0x0E)]
  else [0xFE, UInt8.ofNat tagNumber]

def encodeClosingTag (tagNumber : Nat) : Bytes :=
  if tagNumber ≤ 14 then [UInt8.ofNat (tagNumber <<< 4 ||| 0x0F)]
  else [0xFF, UInt8.ofNat tagNumber]

/-- The extended length after an initial octet with L/V/T 5, 6 or 7. -/
def decodeExtendedLength (buf : Bytes) (offset : Nat) : Except PyException (Nat × Nat) := do
  if buf.length ≤ offset then
    .error (.valueError "Tag decode: truncated extended length")
  else
    let ext ← octetAt buf offset
    let offset := offset + 1
    if ext.toNat ≤ 253 then
      .ok (ext.toNat, offset)
    else if ext.toNat = 254 then
      if buf.length < offset + 2 then
        .error (.valueError "Tag decode: truncated 2-byte extended length")
      else
        .ok (fromBytes (slice buf offset (offset + 2)), offset + 2)
    else if buf.length < offset + 4 then
      .error (.valueError "Tag decode: truncated 4-byte extended length")
    else
      .ok (fromBytes (slice buf offset (offset + 4)), offset + 4)

/-- The tag number: the high nibble, or the next octet if all its bits are set. -/
def decodeTagNumber (buf : Bytes) (initial : UInt8) (offset : Nat)
    : Except PyException (Nat × Nat) := do
  let tagNumber := ((initial >>> 4) &&& 0x0F).toNat
  if tagNumber = 0x0F then
    if buf.length ≤ offset then
      .error (.valueError "Tag decode: truncated extended tag number")
    else
      let extended ← octetAt buf offset
      .ok (extended.toNat, offset + 1)
  else
    .ok (tagNumber, offset)

/-- `decode_tag`: the tag at `offset`, and the offset after its header. -/
def decodeTag (buf : Bytes) (offset : Nat) : Except PyException (Tag × Nat) := do
  if buf.length ≤ offset then
    .error (.valueError s!"Tag decode: offset {offset} beyond buffer length {buf.length}")
  else
    let initial ← octetAt buf offset
    let (tagNumber, offset) ← decodeTagNumber buf initial (offset + 1)
    let cls := if (initial >>> 3) &&& 0x01 = 0 then TagClass.application else .context
    let lvt := (initial &&& 0x07).toNat
    if cls = .context ∧ lvt = 6 then
      .ok ({ number := tagNumber, cls, length := 0, isOpening := true }, offset)
    else if cls = .context ∧ lvt = 7 then
      .ok ({ number := tagNumber, cls, length := 0, isClosing := true }, offset)
    else
      let (length, offset) ← if lvt < 5 then .ok (lvt, offset) else decodeExtendedLength buf offset
      if 1048576 < length then
        .error (.valueError
          (s!"Tag length ({length}) exceeds sanity limit (1048576 bytes): "
            ++ "possible malformed or malicious packet"))
      else
        .ok ({ number := tagNumber, cls, length }, offset)

/-- A tag has room for every content whose length fits in four octets. -/
theorem encodeTag_ok_iff {number} (inRange : number ≤ 254) (cls : TagClass) {length}
    : (∃ header, encodeTag number cls length = .ok header) ↔ length < 256 ^ 4 := by
  unfold encodeTag
  rw [if_neg (show ¬ 254 < number by omega)]
  dsimp only
  split
  · simp only [Except.ok.injEq, exists_eq', true_iff]
    omega
  · split
    · simp only [Except.ok.injEq, exists_eq', true_iff]
      omega
    · split
      · simp only [Except.ok.injEq, exists_eq', true_iff]
        omega
      · split
        · next fits => simpa using fits
        · next large => simpa using Nat.not_lt.mp large

/-- The three fields of the initial octet of an application tag. -/
theorem initialOctet_fields {number lvt} (small : number ≤ 14) (short : lvt ≤ 5)
    : ((UInt8.ofNat (number <<< 4 ||| lvt) >>> 4) &&& 0x0F).toNat = number
      ∧ (UInt8.ofNat (number <<< 4 ||| lvt) >>> 3) &&& 0x01 = 0
      ∧ (UInt8.ofNat (number <<< 4 ||| lvt) &&& 0x07).toNat = lvt := by
  have table : ∀ number < 15, ∀ lvt < 6,
      ((UInt8.ofNat (number <<< 4 ||| lvt) >>> 4) &&& 0x0F).toNat = number
      ∧ (UInt8.ofNat (number <<< 4 ||| lvt) >>> 3) &&& 0x01 = 0
      ∧ (UInt8.ofNat (number <<< 4 ||| lvt) &&& 0x07).toNat = lvt := by
    decide
  exact table number (by omega) lvt (by omega)

/-- The extended length that is encoded behind an initial octet is read from there. -/
theorem decodeExtendedLength_append (before after : Bytes) {extended length}
    (encoded : (extended = [UInt8.ofNat length] ∧ length ≤ 253)
      ∨ (extended = 254 :: toBytes length 2 ∧ length ≤ 65535)
      ∨ (extended = 255 :: toBytes length 4 ∧ length < 256 ^ 4))
    : decodeExtendedLength (before ++ (extended ++ after)) before.length
      = .ok (length, before.length + extended.length) := by
  have longForm : ∀ (first : UInt8) (size : Nat), length < 256 ^ size →
      fromBytes (slice (before ++ (first :: toBytes length size ++ after)) (before.length + 1)
        (before.length + 1 + size)) = length := by
    intro first size fits
    have split : before ++ (first :: toBytes length size ++ after)
        = (before ++ [first]) ++ (toBytes length size ++ after) := by simp
    have middle := slice_append (before ++ [first]) (toBytes length size) after
    rw [List.length_append, List.length_singleton, length_toBytes] at middle
    rw [split, middle, fromBytes_toBytes fits]
  unfold decodeExtendedLength
  rcases encoded with ⟨rfl, short⟩ | ⟨rfl, medium⟩ | ⟨rfl, long⟩
  · have read : (UInt8.ofNat length).toNat = length := by
      rw [UInt8.toNat_ofNat', Nat.mod_eq_of_lt (by omega)]
    simp [octetAt, bind, Except.bind, read, short]
  · have read := longForm 254 2 (by omega)
    simp only [List.cons_append] at read
    simp only [octetAt, bind, Except.bind, read, List.cons_append, List.length_append,
      List.length_cons, length_toBytes, List.getElem?_append_right (Nat.le_refl _), Nat.sub_self,
      List.getElem?_cons_zero]
    rw [if_neg (by omega), if_neg (by decide), if_pos (by decide), if_neg (by omega)]
  · have read := longForm 255 4 long
    simp only [List.cons_append] at read
    simp only [octetAt, bind, Except.bind, read, List.cons_append, List.length_append,
      List.length_cons, length_toBytes, List.getElem?_append_right (Nat.le_refl _), Nat.sub_self,
      List.getElem?_cons_zero]
    rw [if_neg (by omega), if_neg (by decide), if_neg (by decide), if_neg (by omega)]

/-- An application tag is an initial octet, and an extended length if that is needed. -/
theorem encodeTag_application {number length} (small : number ≤ 14) {header}
    (encoded : encodeTag number .application length = .ok header)
    : ∃ lvt extended, header = UInt8.ofNat (number <<< 4 ||| lvt) :: extended ∧ lvt ≤ 5
        ∧ ∀ before after, (if lvt < 5 then .ok (lvt, before.length)
            else decodeExtendedLength (before ++ (extended ++ after)) before.length)
          = .ok (length, before.length + extended.length) := by
  have inRange : ¬ 254 < number := by omega
  unfold encodeTag at encoded
  rw [if_neg inRange] at encoded
  simp only [if_pos small, TagClass.toNat, Nat.zero_shiftLeft, Nat.or_zero] at encoded
  split at encoded
  · next short =>
      have inTag : length < 5 := by omega
      cases encoded
      exact ⟨length, [], rfl, by omega, fun before after => by rw [if_pos inTag]; rfl⟩
  · split at encoded
    · next short =>
        cases encoded
        exact ⟨5, _, rfl, Nat.le_refl 5, fun before after =>
          decodeExtendedLength_append before after (Or.inl ⟨rfl, short⟩)⟩
    · split at encoded
      · next medium =>
          cases encoded
          exact ⟨5, _, rfl, Nat.le_refl 5, fun before after =>
            decodeExtendedLength_append before after (Or.inr (Or.inl ⟨rfl, medium⟩))⟩
      · split at encoded
        · next long =>
            cases encoded
            exact ⟨5, _, rfl, Nat.le_refl 5, fun before after =>
              decodeExtendedLength_append before after (Or.inr (Or.inr ⟨rfl, long⟩))⟩
        · cases encoded

/-- The decoder reads back the application tag that the encoder wrote, unless it takes its length
for an attack.
-/
theorem decodeTag_application (before after : Bytes) {number length} (small : number ≤ 14) {header}
    (encoded : encodeTag number .application length = .ok header)
    : decodeTag (before ++ (header ++ after)) before.length
      = if 1048576 < length then
          .error (.valueError
            (s!"Tag length ({length}) exceeds sanity limit (1048576 bytes): "
              ++ "possible malformed or malicious packet"))
        else .ok ({ number, cls := .application, length }, before.length + header.length) := by
  obtain ⟨lvt, extended, rfl, fits, lengthRead⟩ := encodeTag_application small encoded
  have inside : ¬ (before ++ (UInt8.ofNat (number <<< 4 ||| lvt) :: extended ++ after)).length
      ≤ before.length := by
    simp
  have read : octetAt (before ++ (UInt8.ofNat (number <<< 4 ||| lvt) :: extended ++ after))
      before.length = .ok (UInt8.ofNat (number <<< 4 ||| lvt)) := by
    simpa using octetAt_append before (UInt8.ofNat (number <<< 4 ||| lvt) :: extended ++ after) 0
  have later := lengthRead (before ++ [UInt8.ofNat (number <<< 4 ||| lvt)]) after
  rw [List.append_assoc, List.singleton_append, ← List.cons_append, List.length_append,
    List.length_singleton] at later
  have whole : before.length + 1 + extended.length
      = before.length + (UInt8.ofNat (number <<< 4 ||| lvt) :: extended).length := by
    rw [List.length_cons]
    omega
  have notExtended : number ≠ 15 := by omega
  obtain ⟨numberField, classField, lengthField⟩ := initialOctet_fields small fits
  rw [whole] at later
  generalize UInt8.ofNat (number <<< 4 ||| lvt) = initial at *
  unfold decodeTag
  simp only [inside, read, decodeTagNumber, numberField, classField, lengthField, notExtended,
    bind, Except.bind, if_true, if_false, reduceCtorEq, false_and]
  by_cases inTag : lvt < 5
  · rw [if_pos inTag] at later ⊢
    obtain ⟨rfl, ended⟩ := Prod.mk.inj (Except.ok.inj later)
    rw [ended]
  · rw [if_neg inTag] at later ⊢
    rw [later]

/-- The header of a short application-tagged value is its initial octet: the content starts
right after it.
-/
theorem decodeTag_application_short (before after : Bytes) {number length} (small : number ≤ 14)
    (short : length ≤ 4)
    : decodeTag (before ++ UInt8.ofNat (number <<< 4 ||| length) :: after) before.length
      = .ok ({ number, cls := .application, length }, before.length + 1) := by
  have inRange : ¬ 254 < number := by omega
  have sane : ¬ 1048576 < length := by omega
  have encoded : encodeTag number .application length
      = .ok [UInt8.ofNat (number <<< 4 ||| length)] := by
    simp [encodeTag, inRange, small, short, TagClass.toNat]
  rw [← List.singleton_append, decodeTag_application before after small encoded, if_neg sane]
  rfl

end BacPy

/-! Unsigned and enumerated values (Clause 20.2.4, 20.2.11), as far as the APDU layer uses them. -/

namespace BacPy

def tagEnumerated : Nat := 9

/-- `encode_unsigned`: the minimum number of octets, big-endian. -/
def encodeUnsigned (value : Nat) : Except PyException Bytes :=
  if value ≤ 0xFF then
    .ok [UInt8.ofNat value]
  else if 0xFFFFFFFF < value then
    .error (.valueError s!"Unsigned integer exceeds 4-byte maximum (4294967295), got {value}")
  else
    -- `value.bit_length()` of a positive number is one more than its binary logarithm
    .ok (toBytes value ((Nat.log2 value + 1 + 7) / 8))

def decodeUnsigned (data : Bytes) : Nat := fromBytes data

def encodeEnumerated (value : Nat) : Except PyException Bytes := encodeUnsigned value

/-- `decode_enumerated`: same encoding as unsigned. -/
def decodeEnumerated (data : Bytes) : Nat := decodeUnsigned data

def encodeApplicationTagged (tagNumber : Nat) (data : Bytes) : Except PyException Bytes := do
  let header ← encodeTag tagNumber .application data.length
  .ok (header ++ data)

def encodeApplicationEnumerated (value : Nat) : Except PyException Bytes := do
  let data ← encodeEnumerated value
  encodeApplicationTagged tagEnumerated data

end BacPy
