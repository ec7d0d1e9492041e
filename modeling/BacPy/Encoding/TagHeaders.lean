import BacPy.Encoding.Tags
import BacPy.Library.Parsers

/-! Tag headers delimit themselves: what the decoder takes for a tag is read as that tag wherever it
stands, and the headers that the encoders write are of this kind.
-/

namespace BacPy

open Library

/-- The octets are a header of the tag, wherever they stand. -/
abbrev TagHeader (octets : Bytes) (tag : Tag) : Prop := Reads decodeTag octets tag

-- The parts of a header

/-- The number in the high nibble of an initial octet, 15 for an extended one. -/
def numberField (initial : UInt8) : Nat := ((initial >>> 4) &&& 0x0F).toNat

def classField (initial : UInt8) : TagClass :=
  if (initial >>> 3) &&& 0x01 = 0 then .application else .context

/-- The length, value or type in an initial octet. -/
def lengthField (initial : UInt8) : Nat := (initial &&& 0x07).toNat

/-- The first part of `decode_tag`: the initial octet. -/
def initialOctet : Reader UInt8 PyException UInt8 := fun buf offset =>
  if buf.length ≤ offset then
    .error (.valueError s!"Tag decode: offset {offset} beyond buffer length {buf.length}")
  else
    octetAt buf offset >>= fun initial => .ok (initial, offset + 1)

/-- The tag with a length, unless the decoder takes that for an attack. -/
def primitiveTag (initial : UInt8) (tagNumber : Nat) (read : Nat × Nat)
    : Except PyException (Tag × Nat) :=
  if 1048576 < read.1 then
    .error (.valueError
      (s!"Tag length ({read.1}) exceeds sanity limit (1048576 bytes): "
        ++ "possible malformed or malicious packet"))
  else
    .ok ({ number := tagNumber, cls := classField initial, length := read.1 }, read.2)

/-- The last part of `decode_tag`: an opening or closing tag, or the length of the content. -/
def tagBehind (initial : UInt8) (tagNumber : Nat) : Reader UInt8 PyException Tag :=
  fun buf offset =>
    if classField initial = .context ∧ lengthField initial = 6 then
      .ok ({ number := tagNumber, cls := classField initial, length := 0, isOpening := true }, offset)
    else if classField initial = .context ∧ lengthField initial = 7 then
      .ok ({ number := tagNumber, cls := classField initial, length := 0, isClosing := true }, offset)
    else if lengthField initial < 5 then
      primitiveTag initial tagNumber (lengthField initial, offset)
    else
      decodeExtendedLength buf offset >>= primitiveTag initial tagNumber

/-- `decode_tag` reads its three parts in a row. -/
theorem decodeTag_parts
    : decodeTag = fun buf offset => initialOctet buf offset >>= fun initial =>
        (fun buf offset => decodeTagNumber buf initial.1 offset >>= fun number =>
          tagBehind initial.1 number.1 buf number.2) buf initial.2 := by
  funext buf offset
  unfold decodeTag initialOctet
  split
  · rfl
  · cases octetAt buf offset with
    | error raised => rfl
    | ok initial =>
      simp only [bind, Except.bind]
      cases decodeTagNumber buf initial (offset + 1) with
      | error raised => rfl
      | ok number =>
        simp only [tagBehind, primitiveTag, classField, lengthField]
        rfl

theorem initialOctet_reads (initial : UInt8) : Reads initialOctet [initial] initial := by
  intro before after
  have inside : ¬ (before ++ initial :: after).length ≤ before.length := by simp
  have read := octetAt_append before (initial :: after) 0
  rw [Nat.add_zero, octetAt_zero] at read
  simp only [initialOctet, List.singleton_append, if_neg inside, read, bind, Except.bind,
    List.length_singleton]

theorem initialOctet_delimits : SelfDelimiting initialOctet := by
  intro data offset value next starts read
  unfold initialOctet at read
  split at read
  · cases read
  · next inside =>
      obtain ⟨initial, there, ended⟩ := bind_eq_ok.mp read
      obtain ⟨rfl, rfl⟩ := Prod.mk.inj (Except.ok.inj ended)
      exact ⟨[initial], initialOctet_reads initial, rfl, by omega, drop_eq_cons there⟩

/-- A short tag number takes no octet of its own. -/
theorem decodeTagNumber_short {initial} (short : numberField initial ≠ 15)
    : Reads (fun buf offset => decodeTagNumber buf initial offset) [] (numberField initial) := by
  intro before after
  simp only [decodeTagNumber]
  exact if_neg short

/-- An extended tag number is the next octet. -/
theorem decodeTagNumber_extended {initial} (long : numberField initial = 15) (extended : UInt8)
    : Reads (fun buf offset => decodeTagNumber buf initial offset) [extended] extended.toNat := by
  intro before after
  have inside : ¬ (before ++ extended :: after).length ≤ before.length := by simp
  have read := octetAt_append before (extended :: after) 0
  rw [Nat.add_zero, octetAt_zero] at read
  simp only [decodeTagNumber, List.singleton_append, if_neg inside, read, bind, Except.bind,
    List.length_singleton]
  exact if_pos long

theorem decodeTagNumber_delimits (initial : UInt8)
    : SelfDelimiting fun buf offset => decodeTagNumber buf initial offset := by
  intro data offset value next starts read
  simp only [decodeTagNumber] at read
  split at read
  · next long =>
      split at read
      · cases read
      · next inside =>
          obtain ⟨extended, there, ended⟩ := bind_eq_ok.mp read
          obtain ⟨rfl, rfl⟩ := Prod.mk.inj (Except.ok.inj ended)
          exact ⟨[extended], decodeTagNumber_extended long extended, rfl, by omega,
            drop_eq_cons there⟩
  · next short =>
      obtain ⟨rfl, rfl⟩ := Prod.mk.inj (Except.ok.inj read)
      exact ⟨[], decodeTagNumber_short short, rfl, starts, rfl⟩

/-- The three forms of an extended length: one octet, or a mark and two or four octets. -/
theorem decodeExtendedLength_reads {extended length}
    (form : (∃ octet : UInt8, octet.toNat ≤ 253 ∧ extended = [octet] ∧ length = octet.toNat)
      ∨ (∃ octets : Bytes, octets.length = 2 ∧ extended = 254 :: octets
        ∧ length = fromBytes octets)
      ∨ (∃ octets : Bytes, octets.length = 4 ∧ extended = 255 :: octets
        ∧ length = fromBytes octets))
    : Reads decodeExtendedLength extended length := by
  intro before after
  have start (mark : UInt8) (octets : Bytes)
      : octetAt (before ++ (mark :: octets ++ after)) before.length = .ok mark := by
    simpa using octetAt_append before (mark :: octets ++ after) 0
  have behind (mark : UInt8) (octets : Bytes)
      : slice (before ++ (mark :: octets ++ after)) (before.length + 1)
          (before.length + 1 + octets.length) = octets := by
    simpa using slice_append (before ++ [mark]) octets after
  unfold decodeExtendedLength
  rw [if_neg (by rcases form with ⟨_, _, rfl, _⟩ | ⟨_, _, rfl, _⟩ | ⟨_, _, rfl, _⟩ <;> simp)]
  rcases form with ⟨octet, short, rfl, rfl⟩ | ⟨octets, two, rfl, rfl⟩ | ⟨octets, four, rfl, rfl⟩
  · rw [start octet []]
    simp only [bind, Except.bind, if_pos short, List.length_singleton]
  · have read := behind 254 octets
    rw [two] at read
    simp only [start, bind, Except.bind, read, List.length_append, List.length_cons, two]
    rw [if_neg (by decide), if_pos (by decide), if_neg (by omega)]
  · have read := behind 255 octets
    rw [four] at read
    simp only [start, bind, Except.bind, read, List.length_append, List.length_cons, four]
    rw [if_neg (by decide), if_neg (by decide), if_neg (by omega)]

theorem decodeExtendedLength_delimits : SelfDelimiting decodeExtendedLength := by
  intro data offset value next starts read
  unfold decodeExtendedLength at read
  split at read
  · cases read
  · next inside =>
      obtain ⟨mark, there, read⟩ := bind_eq_ok.mp read
      have first := drop_eq_cons there
      dsimp only at read
      split at read
      · next short =>
          obtain ⟨rfl, rfl⟩ := Prod.mk.inj (Except.ok.inj read)
          exact ⟨[mark], decodeExtendedLength_reads (.inl ⟨mark, short, rfl, rfl⟩), rfl, by omega,
            first⟩
      · have behind (size : Nat) (present : ¬ data.length < offset + 1 + size)
            : (slice data (offset + 1) (offset + 1 + size)).length = size
              ∧ data.drop offset = mark :: slice data (offset + 1) (offset + 1 + size)
                ++ data.drop (offset + 1 + size) :=
          ⟨length_slice (by omega),
            by rw [first, drop_eq_slice_append (Nat.le_add_right (offset + 1) size)]; rfl⟩
        split at read
        · next medium =>
            split at read
            · cases read
            · next present =>
                obtain ⟨rfl, rfl⟩ := Prod.mk.inj (Except.ok.inj read)
                obtain rfl : mark = 254 := UInt8.toNat_inj.mp medium
                obtain ⟨size, here⟩ := behind 2 present
                exact ⟨_, decodeExtendedLength_reads (.inr (.inl ⟨_, size, rfl, rfl⟩)),
                  by rw [List.length_cons, size], by omega, here⟩
        · next large =>
            split at read
            · cases read
            · next present =>
                obtain ⟨rfl, rfl⟩ := Prod.mk.inj (Except.ok.inj read)
                have below := mark.toNat_lt
                obtain rfl : mark = 255 := UInt8.toNat_inj.mp (show mark.toNat = 255 by omega)
                obtain ⟨size, here⟩ := behind 4 present
                exact ⟨_, decodeExtendedLength_reads (.inr (.inr ⟨_, size, rfl, rfl⟩)),
                  by rw [List.length_cons, size], by omega, here⟩

-- Whole headers

theorem primitiveTag_eq_ok {initial tagNumber read tag next}
    : primitiveTag initial tagNumber read = .ok (tag, next)
      ↔ read.1 ≤ 1048576 ∧ tag = { number := tagNumber, cls := classField initial, length := read.1 }
        ∧ next = read.2 := by
  unfold primitiveTag
  split
  · next large => exact ⟨fun failed => (nomatch failed), fun small => absurd small.1 (by omega)⟩
  · next small =>
      rw [Except.ok.injEq, Prod.mk.injEq]
      exact ⟨fun ⟨same, ended⟩ => ⟨by omega, same.symm, ended.symm⟩,
        fun ⟨_, same, ended⟩ => ⟨same.symm, ended.symm⟩⟩

/-- Opening and closing tags end with the tag number. -/
theorem tagBehind_opening {initial} (context : classField initial = .context)
    (opening : lengthField initial = 6) (tagNumber : Nat)
    : Reads (tagBehind initial tagNumber) []
        { number := tagNumber, cls := .context, length := 0, isOpening := true } := by
  intro before after
  rw [tagBehind, if_pos ⟨context, opening⟩, context]
  rfl

theorem tagBehind_closing {initial} (context : classField initial = .context)
    (closing : lengthField initial = 7) (tagNumber : Nat)
    : Reads (tagBehind initial tagNumber) []
        { number := tagNumber, cls := .context, length := 0, isClosing := true } := by
  intro before after
  rw [tagBehind, if_neg (by omega), if_pos ⟨context, closing⟩, context]
  rfl

theorem tagBehind_short {initial} (short : lengthField initial < 5) (tagNumber : Nat)
    : Reads (tagBehind initial tagNumber) []
        { number := tagNumber, cls := classField initial, length := lengthField initial } := by
  intro before after
  rw [tagBehind, if_neg (by omega), if_neg (by omega), if_pos short]
  exact primitiveTag_eq_ok.mpr ⟨by dsimp only; omega, rfl, rfl⟩

theorem tagBehind_extended {initial} (long : ¬ lengthField initial < 5)
    (primitive : classField initial = .context → lengthField initial ≠ 6 ∧ lengthField initial ≠ 7)
    {extended length} (reads : Reads decodeExtendedLength extended length) (sane : length ≤ 1048576)
    (tagNumber : Nat)
    : Reads (tagBehind initial tagNumber) extended
        { number := tagNumber, cls := classField initial, length := length } := by
  intro before after
  rw [tagBehind, if_neg fun marked => (primitive marked.1).1 marked.2,
    if_neg fun marked => (primitive marked.1).2 marked.2, if_neg long, reads before after]
  exact primitiveTag_eq_ok.mpr ⟨sane, rfl, rfl⟩

theorem tagBehind_delimits (initial : UInt8) (tagNumber : Nat)
    : SelfDelimiting (tagBehind initial tagNumber) := by
  intro data offset tag next starts read
  unfold tagBehind at read
  split at read
  · next marked =>
      obtain ⟨rfl, rfl⟩ := Prod.mk.inj (Except.ok.inj read)
      rw [marked.1]
      exact ⟨[], tagBehind_opening marked.1 marked.2 tagNumber, rfl, starts, rfl⟩
  · next notOpening =>
      split at read
      · next marked =>
          obtain ⟨rfl, rfl⟩ := Prod.mk.inj (Except.ok.inj read)
          rw [marked.1]
          exact ⟨[], tagBehind_closing marked.1 marked.2 tagNumber, rfl, starts, rfl⟩
      · next notClosing =>
          split at read
          · next short =>
              obtain ⟨_, rfl, rfl⟩ := primitiveTag_eq_ok.mp read
              exact ⟨[], tagBehind_short short tagNumber, rfl, starts, rfl⟩
          · next long =>
              obtain ⟨⟨length, later⟩, extended, read⟩ := bind_eq_ok.mp read
              obtain ⟨sane, rfl, rfl⟩ := primitiveTag_eq_ok.mp read
              obtain ⟨chunk, reads, ended, inside, here⟩ :=
                decodeExtendedLength_delimits _ _ _ _ starts extended
              exact ⟨chunk, tagBehind_extended long
                (fun context => ⟨fun opening => notOpening ⟨context, opening⟩,
                  fun closing => notClosing ⟨context, closing⟩⟩) reads sane tagNumber,
                ended, inside, here⟩

/-- Whatever `decode_tag` reads is a header that it reads so everywhere. -/
theorem decodeTag_delimits : SelfDelimiting decodeTag := by
  rw [decodeTag_parts]
  exact initialOctet_delimits.andThen fun initial =>
    (decodeTagNumber_delimits initial).andThen fun number => tagBehind_delimits initial number

/-- A header is made of its three parts. -/
theorem tagHeader_parts {initial number tagNumber}
    (numberReads : Reads (fun buf offset => decodeTagNumber buf initial offset) number tagNumber)
    {rest tag} (restReads : Reads (tagBehind initial tagNumber) rest tag)
    : TagHeader (initial :: (number ++ rest)) tag := by
  rw [TagHeader, decodeTag_parts]
  have later := numberReads.andThen (tagBehind initial) restReads
  exact (initialOctet_reads initial).andThen (fun initial buf offset =>
    decodeTagNumber buf initial offset >>= fun number =>
      tagBehind initial number.1 buf number.2) later

theorem TagHeader.length_pos {octets tag} (header : TagHeader octets tag)
    : 0 < octets.length := by
  have read := header [] []
  cases octets with
  | nil => cases read
  | cons first rest => exact Nat.succ_pos _

theorem decodeTag_inside {data offset next tag} (read : decodeTag data offset = .ok (tag, next))
    : offset < data.length := by
  unfold decodeTag at read
  split at read
  · cases read
  · omega

/-- A tag that was read left its header behind. -/
theorem decodeTag_read {data offset next tag} (read : decodeTag data offset = .ok (tag, next))
    : ∃ header, TagHeader header tag ∧ next = offset + header.length ∧ next ≤ data.length
        ∧ data.drop offset = header ++ data.drop next :=
  decodeTag_delimits _ _ _ _ (Nat.le_of_lt (decodeTag_inside read)) read

theorem decodeTag_marked {data offset next tag} (read : decodeTag data offset = .ok (tag, next))
    : (tag.isOpening = true → tag.isClosing = false)
      ∧ (tag.isOpening = true ∨ tag.isClosing = true → tag.cls = .context ∧ tag.length = 0) := by
  rw [decodeTag_parts] at read
  obtain ⟨initial, _, read⟩ := bind_eq_ok.mp read
  obtain ⟨number, _, read⟩ := bind_eq_ok.mp read
  unfold tagBehind at read
  split at read
  · next marked =>
      obtain ⟨rfl, _⟩ := Prod.mk.inj (Except.ok.inj read)
      exact ⟨fun _ => rfl, fun _ => ⟨marked.1, rfl⟩⟩
  · split at read
    · next marked =>
        obtain ⟨rfl, _⟩ := Prod.mk.inj (Except.ok.inj read)
        exact ⟨fun opening => (nomatch opening), fun _ => ⟨marked.1, rfl⟩⟩
    · split at read
      · obtain ⟨_, rfl, _⟩ := primitiveTag_eq_ok.mp read
        exact ⟨fun opening => (nomatch opening), fun marked => by simp at marked⟩
      · obtain ⟨_, _, read⟩ := bind_eq_ok.mp read
        obtain ⟨_, rfl, _⟩ := primitiveTag_eq_ok.mp read
        exact ⟨fun opening => (nomatch opening), fun marked => by simp at marked⟩

-- The headers that the encoders write

/-- The three fields of an initial octet. -/
theorem initial_fields {nibble lvt} (cls : TagClass) (small : nibble ≤ 15) (short : lvt ≤ 7)
    : numberField (UInt8.ofNat (nibble <<< 4 ||| cls.toNat <<< 3 ||| lvt)) = nibble
      ∧ classField (UInt8.ofNat (nibble <<< 4 ||| cls.toNat <<< 3 ||| lvt)) = cls
      ∧ lengthField (UInt8.ofNat (nibble <<< 4 ||| cls.toNat <<< 3 ||| lvt)) = lvt := by
  have table : ∀ nibble < 16, ∀ lvt < 8,
      (numberField (UInt8.ofNat (nibble <<< 4 ||| cls.toNat <<< 3 ||| lvt)) = nibble
      ∧ classField (UInt8.ofNat (nibble <<< 4 ||| cls.toNat <<< 3 ||| lvt)) = cls
      ∧ lengthField (UInt8.ofNat (nibble <<< 4 ||| cls.toNat <<< 3 ||| lvt)) = lvt) := by
    cases cls with
    | application => decide +kernel
    | context => decide +kernel
  exact table nibble (by omega) lvt (by omega)

/-- The initial octet that `encode_tag` writes, with some last three bits. -/
def encodedInitial (tagNumber : Nat) (cls : TagClass) (lvt : Nat) : UInt8 :=
  UInt8.ofNat ((if tagNumber ≤ 14 then tagNumber <<< 4 else 0x0F <<< 4) ||| cls.toNat <<< 3 ||| lvt)

def encodedNumber (tagNumber : Nat) : Bytes :=
  if tagNumber ≤ 14 then [] else [UInt8.ofNat tagNumber]

theorem encodedInitial_fields (tagNumber : Nat) (cls : TagClass) {lvt} (short : lvt ≤ 7)
    : numberField (encodedInitial tagNumber cls lvt) = (if tagNumber ≤ 14 then tagNumber else 15)
      ∧ classField (encodedInitial tagNumber cls lvt) = cls
      ∧ lengthField (encodedInitial tagNumber cls lvt) = lvt := by
  unfold encodedInitial
  split
  · next small => exact initial_fields cls (by omega) short
  · exact initial_fields cls (Nat.le_refl 15) short

theorem encodedNumber_reads {tagNumber} (inRange : tagNumber ≤ 254) (cls : TagClass) {lvt}
    (short : lvt ≤ 7)
    : Reads (fun buf offset => decodeTagNumber buf (encodedInitial tagNumber cls lvt) offset)
        (encodedNumber tagNumber) tagNumber := by
  obtain ⟨fields, _⟩ := encodedInitial_fields tagNumber cls short
  unfold encodedNumber
  split at fields
  · next small =>
      have notExtended := @decodeTagNumber_short (encodedInitial tagNumber cls lvt) (by omega)
      rw [fields] at notExtended
      rwa [if_pos small]
  · next large =>
      have extended := decodeTagNumber_extended fields (UInt8.ofNat tagNumber)
      rw [UInt8.toNat_ofNat', Nat.mod_eq_of_lt (by omega)] at extended
      rwa [if_neg large]

theorem extended_header {tagNumber length} (inRange : tagNumber ≤ 254) (cls : TagClass) {form}
    (reads : Reads decodeExtendedLength form length) (sane : length ≤ 1048576)
    : TagHeader (encodedInitial tagNumber cls 5 :: (encodedNumber tagNumber ++ form))
        { number := tagNumber, cls, length } := by
  obtain ⟨_, class_, five⟩ := encodedInitial_fields tagNumber cls (show 5 ≤ 7 by omega)
  have rest := @tagBehind_extended (encodedInitial tagNumber cls 5) (by omega)
    (fun _ => by omega) _ _ reads sane tagNumber
  rw [class_] at rest
  exact tagHeader_parts (encodedNumber_reads inRange cls (by omega)) rest

/-- `encode_tag` writes the header of the tag it is given. -/
theorem encodeTag_header {tagNumber length cls octets}
    (encoded : encodeTag tagNumber cls length = .ok octets) (sane : length ≤ 1048576)
    : TagHeader octets { number := tagNumber, cls, length } := by
  have shortRead {length : Nat} (short : length ≤ 253) : (UInt8.ofNat length).toNat = length := by
    rw [UInt8.toNat_ofNat', Nat.mod_eq_of_lt (by omega)]
  unfold encodeTag at encoded
  split at encoded
  · cases encoded
  · next inRange =>
      dsimp only at encoded
      have extended {form : Bytes} (reads : Reads decodeExtendedLength form length) :=
        extended_header (show tagNumber ≤ 254 by omega) cls reads sane
      split at encoded
      · next inTag =>
          cases encoded
          obtain ⟨_, class_, lvt⟩ := encodedInitial_fields tagNumber cls (show length ≤ 7 by omega)
          have rest := @tagBehind_short (encodedInitial tagNumber cls length) (by omega) tagNumber
          rw [class_, lvt] at rest
          have whole := tagHeader_parts
            (encodedNumber_reads (show tagNumber ≤ 254 by omega) cls (by omega)) rest
          rwa [List.append_nil] at whole
      · split at encoded
        · next short =>
            cases encoded
            exact extended (decodeExtendedLength_reads (.inl ⟨UInt8.ofNat length,
              by rw [shortRead short]; exact short, rfl, (shortRead short).symm⟩))
        · split at encoded
          · next medium =>
              cases encoded
              rw [List.cons_append, List.cons_append, List.append_assoc]
              exact extended (decodeExtendedLength_reads (.inr (.inl ⟨toBytes length 2,
                length_toBytes _ _, rfl, (fromBytes_toBytes (by omega)).symm⟩)))
          · split at encoded
            · next large =>
                cases encoded
                rw [List.cons_append, List.cons_append, List.append_assoc]
                exact extended (decodeExtendedLength_reads (.inr (.inr ⟨toBytes length 4,
                  length_toBytes _ _, rfl, (fromBytes_toBytes large).symm⟩)))
            · cases encoded

/-- The encoders of opening and closing tags write initial octets of the same form. -/
theorem marked_octets {tagNumber lvt} (mark : lvt = 6 ∨ lvt = 7)
    : (if tagNumber ≤ 14 then [UInt8.ofNat (tagNumber <<< 4 ||| (8 ||| lvt))]
        else [UInt8.ofNat (0xF8 ||| lvt), UInt8.ofNat tagNumber])
      = encodedInitial tagNumber .context lvt :: (encodedNumber tagNumber ++ []) := by
  unfold encodedInitial encodedNumber
  split
  · rw [Nat.or_assoc]
    rfl
  · rcases mark with rfl | rfl
    · rfl
    · rfl

theorem encodeOpeningTag_header {tagNumber} (inRange : tagNumber ≤ 254)
    : TagHeader (encodeOpeningTag tagNumber)
        { number := tagNumber, cls := .context, length := 0, isOpening := true } := by
  obtain ⟨_, context, opening⟩ := encodedInitial_fields tagNumber .context (show 6 ≤ 7 by omega)
  have octets : encodeOpeningTag tagNumber = _ := marked_octets (.inl rfl)
  rw [octets]
  exact tagHeader_parts (encodedNumber_reads inRange .context (by omega))
    (tagBehind_opening context opening tagNumber)

theorem encodeClosingTag_header {tagNumber} (inRange : tagNumber ≤ 254)
    : TagHeader (encodeClosingTag tagNumber)
        { number := tagNumber, cls := .context, length := 0, isClosing := true } := by
  obtain ⟨_, context, closing⟩ := encodedInitial_fields tagNumber .context (show 7 ≤ 7 by omega)
  have octets : encodeClosingTag tagNumber = _ := marked_octets (.inr rfl)
  rw [octets]
  exact tagHeader_parts (encodedNumber_reads inRange .context (by omega))
    (tagBehind_closing context closing tagNumber)

end BacPy
