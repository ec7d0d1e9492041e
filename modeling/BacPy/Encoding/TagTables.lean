import BacPy.Encoding.TagHeaders

/-! The tag encoders with their tables: the precomputed tags are those of the general formula, every
header is read back, and no two headers have the same octets.
-/

namespace BacPy

open Library

-- The tables

/-- `_TAGS_1BYTE`, by class, tag number and length. -/
def tags1Byte : List (List (List Bytes)) :=
  (List.range 2).map fun cls =>
    (List.range 15).map fun tag =>
      (List.range 5).map fun length => [UInt8.ofNat (tag <<< 4 ||| cls <<< 3 ||| length)]

def openingTags : List Bytes :=
  (List.range 15).map fun i => [UInt8.ofNat (i <<< 4 ||| 0x0E)]

def closingTags : List Bytes :=
  (List.range 15).map fun i => [UInt8.ofNat (i <<< 4 ||| 0x0F)]

/-- `table[index]` for an index that is not negative. -/
def tableEntry {Item : Type} (table : List Item) (index : Nat) : Except PyException Item :=
  match table[index]? with
  | some entry => .ok entry
  | none => .error (.indexError "tuple index out of range")

/-- `encode_tag` from "General case" on, for a tag number up to 254. -/
def encodeLongTag (tagNumber : Nat) (cls : TagClass) (length : Nat) : Except PyException Bytes :=
  let initial :=
    if tagNumber ≤ 14 then tagNumber <<< 4 ||| cls.toNat <<< 3 else 0x0F <<< 4 ||| cls.toNat <<< 3
  if length ≤ 4 then .ok [UInt8.ofNat (initial ||| length), UInt8.ofNat tagNumber]
  else
    let initial := initial ||| 5
    if tagNumber ≤ 14 then
      if length ≤ 253 then .ok [UInt8.ofNat initial, UInt8.ofNat length]
      else if length ≤ 65535 then .ok ([UInt8.ofNat initial, 254] ++ toBytes length 2)
      else if length < 256 ^ 4 then .ok ([UInt8.ofNat initial, 255] ++ toBytes length 4)
      else .error (.valueError "int too big to convert")
    else if length ≤ 253 then
      .ok [UInt8.ofNat initial, UInt8.ofNat tagNumber, UInt8.ofNat length]
    else if length ≤ 65535 then
      .ok ([UInt8.ofNat initial, UInt8.ofNat tagNumber, 254] ++ toBytes length 2)
    else if length < 256 ^ 4 then
      .ok ([UInt8.ofNat initial, UInt8.ofNat tagNumber, 255] ++ toBytes length 4)
    else .error (.valueError "int too big to convert")

/-- `encode_tag`, with the table for the short tags. -/
def encodeTableTag (tagNumber : Int) (cls : TagClass) (length : Int) : Except PyException Bytes := do
  if tagNumber < 0 ∨ 254 < tagNumber then
    .error (.valueError s!"Tag number must be 0-254, got {tagNumber}")
  else if length < 0 then
    .error (.valueError s!"Tag length must be non-negative, got {length}")
  else if tagNumber ≤ 14 ∧ length ≤ 4 then
    let numbers ← tableEntry tags1Byte cls.toNat
    let lengths ← tableEntry numbers tagNumber.toNat
    tableEntry lengths length.toNat
  else encodeLongTag tagNumber.toNat cls length.toNat

/-- `encode_opening_tag`, with its table. -/
def encodeTableOpeningTag (tagNumber : Nat) : Except PyException Bytes := do
  if tagNumber ≤ 14 then tableEntry openingTags tagNumber
  else
    let number ← octet tagNumber
    .ok [0xFE, number]

/-- `encode_closing_tag`, with its table. -/
def encodeTableClosingTag (tagNumber : Nat) : Except PyException Bytes := do
  if tagNumber ≤ 14 then tableEntry closingTags tagNumber
  else
    let number ← octet tagNumber
    .ok [0xFF, number]

-- The tables agree with the formula

theorem tableEntry_range {Item : Type} (entry : Nat → Item) {size index} (inside : index < size)
    : tableEntry ((List.range size).map entry) index = .ok (entry index) := by
  rw [tableEntry, List.getElem?_map, List.getElem?_range inside]
  rfl

/-- The fast path and the general case are one formula. -/
theorem encodeTableTag_eq {number : Nat} (inRange : number ≤ 254) (cls : TagClass) (length : Nat)
    : encodeTableTag number cls length = encodeTag number cls length := by
  unfold encodeTableTag encodeTag
  have fits : ¬ 254 < number := by omega
  rw [if_neg (by omega), if_neg (by omega), if_neg fits]
  simp only [Int.toNat_natCast]
  split
  · next short =>
      have small : number ≤ 14 := by omega
      have few : length ≤ 4 := by omega
      have class_ : cls.toNat < 2 := by cases cls <;> decide
      rw [if_pos small, if_pos small, if_pos few, tags1Byte, tableEntry_range _ class_]
      dsimp only [bind, Except.bind]
      rw [tableEntry_range _ (by omega)]
      dsimp only
      exact tableEntry_range _ (by omega)
  · next long =>
      unfold encodeLongTag
      by_cases small : number ≤ 14
      · have many : ¬ length ≤ 4 := by omega
        simp only [if_pos small, if_neg many]
        rfl
      · simp only [if_neg small]
        rfl

theorem encodeTableOpeningTag_eq {number} (inRange : number ≤ 254)
    : encodeTableOpeningTag number = .ok (encodeOpeningTag number) := by
  unfold encodeTableOpeningTag encodeOpeningTag
  split
  · exact tableEntry_range _ (by omega)
  · rw [octet_ok (by omega)]
    rfl

theorem encodeTableClosingTag_eq {number : Nat} (inRange : number ≤ 254)
    : encodeTableClosingTag number = .ok (encodeClosingTag number) := by
  unfold encodeTableClosingTag encodeClosingTag
  split
  · exact tableEntry_range _ (by omega)
  · rw [octet_ok (by omega)]
    rfl

-- All headers

/-- What a tag header can say: the number, class and length of a value, or the number of an opening
or a closing tag.
-/
inductive TagHeading where
  | value (number : Nat) (cls : TagClass) (length : Nat)
  | opening (number : Nat)
  | closing (number : Nat)

namespace TagHeading

/-- The numbers that a tag has room for, and the lengths that the decoder accepts. -/
def Valid : TagHeading → Prop
  | value number _ length => number ≤ 254 ∧ length ≤ 1048576
  | opening number => number ≤ 254
  | closing number => number ≤ 254

def encode : TagHeading → Except PyException Bytes
  | value number cls length => encodeTableTag number cls length
  | opening number => encodeTableOpeningTag number
  | closing number => encodeTableClosingTag number

/-- What the decoder is to return. -/
def tag : TagHeading → Tag
  | value number cls length => { number, cls, length }
  | opening number => { number, cls := .context, length := 0, isOpening := true }
  | closing number => { number, cls := .context, length := 0, isClosing := true }

variable {heading other : TagHeading}

/-- Nothing that a heading says is lost in the tag. -/
theorem tag_injective (same : heading.tag = other.tag) : heading = other := by
  cases heading <;> cases other <;> simp_all [tag]

theorem encode_header (valid : heading.Valid)
    : ∃ octets, heading.encode = .ok octets ∧ TagHeader octets heading.tag := by
  cases heading with
  | value number cls length =>
    obtain ⟨inRange, sane⟩ := valid
    obtain ⟨octets, encoded⟩ := (encodeTag_ok_iff inRange cls).mpr (show length < 256 ^ 4 by omega)
    exact ⟨octets, (encodeTableTag_eq inRange cls length).trans encoded, encodeTag_header encoded sane⟩
  | opening number =>
    exact ⟨_, encodeTableOpeningTag_eq valid, encodeOpeningTag_header valid⟩
  | closing number =>
    exact ⟨_, encodeTableClosingTag_eq valid, encodeClosingTag_header valid⟩

/-- A heading is encoded, decoded again in front of anything, and the only one with its octets. -/
theorem encode_uniquely_decoded (valid : heading.Valid)
    : ∃ octets, heading.encode = .ok octets
        ∧ (∀ rest, decodeTag (octets ++ rest) 0 = .ok (heading.tag, octets.length))
        ∧ ∀ other : TagHeading, other.Valid → other.encode = .ok octets → other = heading := by
  obtain ⟨octets, encoded, reads⟩ := encode_header valid
  refine ⟨octets, encoded, fun rest => ?_, fun other valid' same => ?_⟩
  · have decoded := reads [] rest
    rwa [List.nil_append, List.length_nil, Nat.zero_add] at decoded
  · obtain ⟨octets', encoded', reads'⟩ := encode_header valid'
    obtain rfl := Except.ok.inj (encoded'.symm.trans same)
    exact tag_injective (Reads.unique reads' reads (rfl : octets' ++ [] = octets' ++ [])).1

/-- A tag number and a length that both need octets of their own. -/
theorem extended_uniquely_decoded
    : ∃ octets, (value 254 .context 65536).encode = .ok octets
        ∧ (∀ rest, decodeTag (octets ++ rest) 0 = .ok ((value 254 .context 65536).tag, octets.length))
        ∧ ∀ other : TagHeading, other.Valid → other.encode = .ok octets
          → other = value 254 .context 65536 :=
  encode_uniquely_decoded ⟨by decide, by decide⟩

end TagHeading

end BacPy
