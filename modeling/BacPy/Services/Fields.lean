import BacPy.Types.TimeStamps

/-! The fields that services are made of: a tag with a content, an optional one that is only there if
its tag comes next, and what stands between tags. Every encoder of a field carries its value to the
decoder of that field.
-/

namespace BacPy

open Library

/-- A member of an enumeration. -/
structure EnumType.Member (type : EnumType) where
  number : Nat
  accepted : type.accepts number = true
  deriving DecidableEq

/-- The numbers of the members can be encoded. -/
def EnumType.fits (type : EnumType) : Bool :=
  type.members.all (· ≤ 0xFFFFFFFF) && type.openBelow ≤ 0xFFFFFFFF

theorem EnumType.Member.small {type : EnumType} (value : type.Member) (fits : type.fits = true)
    : value.number ≤ 0xFFFFFFFF := by
  have accepted := value.accepted
  simp only [EnumType.accepts, decide_eq_true_eq] at accepted
  simp only [EnumType.fits, Bool.and_eq_true, List.all_eq_true, decide_eq_true_eq] at fits
  rcases accepted.2 with named | other
  · exact fits.1 _ named
  · rw [Int.toNat_natCast] at other
    omega

def encodeBoolean (value : Bool) : Bytes := [if value then 1 else 0]

def decodeBoolean : Bytes → Except PyException Bool
  | [] => .error (.valueError "decode_boolean requires at least 1 byte, got 0")
  | octet :: _ => .ok (octet ≠ 0)

def encodeApplicationObjectId (identifier : ObjectIdentifier) : Except PyException Bytes :=
  encodeApplicationTagged 12 identifier.encode

def encodeApplicationBitString (value : BitString) : Except PyException Bytes :=
  encodeApplicationTagged 8 (encodeBitString value)

def encodeApplicationOctetString (value : Bytes) : Except PyException Bytes :=
  encodeApplicationTagged 6 value

-- Decoders

/-- A decoder moves an offset through the octets. -/
abbrev Decoder (Value : Type) : Type := Parser UInt8 Raised Value

namespace Decoder

/-- `cls.decode(data)`: the decoder from the first octet on. -/
def run {Value : Type} (decoder : Decoder Value) (data : Bytes) : Except Raised Value :=
  Prod.fst <$> decoder data 0

def ReadsBack {Value : Type} (encode : Value → Except PyException Bytes) (decoder : Decoder Value)
    (value : Value) : Prop :=
  ∃ octets, encode value = .ok octets ∧ decoder.run octets = .ok value

/-- A decoder that is written out as a function of the octets and the offset. -/
def of {Value : Type} (reader : Bytes → Nat → Except PyException (Value × Nat)) : Decoder Value :=
  fun data offset => raising (reader data offset)

/-- `tag, offset = decode_tag(data, offset)` -/
def tag : Decoder Tag := of decodeTag

/-- `data[offset : offset + tag.length]` behind a tag, whatever tag it is. -/
def content : Decoder Bytes := of fun data offset => do
  let (_, content, offset) ← decodeElement data offset
  .ok (content, offset)

/-- A tag together with its content, for a reader that looks at both. -/
def element : Decoder (Tag × Bytes) := of fun data offset => do
  let (tag, content, offset) ← decodeElement data offset
  .ok ((tag, content), offset)

def field {Value : Type} (decode : Bytes → Except PyException Value) : Decoder Value := do
  let octets ← content
  Parser.lift (raising (decode octets))

/-- `EnumType(value)` -/
def member (type : EnumType) (number : Nat) : Except PyException type.Member :=
  if accepted : type.accepts number then .ok ⟨number, accepted⟩
  else .error (.valueError s!"{number} is not a valid {type.name}")

/-- A field by the type of its content. -/
abbrev unsigned : Decoder Nat := field fun octets => .ok (decodeUnsigned octets)

abbrev signed : Decoder Int := field fun octets => .ok (decodeSigned octets)

abbrev boolean : Decoder Bool := field decodeBoolean

/-- `tag.is_boolean_true`: the value of an application Boolean is in its tag. -/
def applicationBoolean : Decoder Bool := do
  let tag ← tag
  pure (tag.cls = .application ∧ tag.number = 1 ∧ tag.length ≠ 0)

abbrev enumerated (type : EnumType) : Decoder type.Member :=
  field fun octets => member type (decodeEnumerated octets)

abbrev objectIdentifier : Decoder ObjectIdentifier := field decodeObjectIdentifier

abbrev bitString : Decoder BitString := field decodeBitString

abbrev octetString : Decoder Bytes := field fun octets => .ok octets

def opening (number : Nat) (message : String) : Decoder Unit := do
  let tag ← tag
  if tag.isOpening = true ∧ tag.number = number then pure ()
  else Parser.fail (.builtin (.valueError message))

def closing (number : Nat) (message : String) : Decoder Unit := do
  let tag ← tag
  if tag.isClosing = true ∧ tag.number = number then pure ()
  else Parser.fail (.builtin (.valueError message))

def optionalContext {Value : Type} (number : Nat) (decode : Bytes → Except PyException Value)
    : Decoder (Option Value) := of fun data offset =>
  if data.length ≤ offset then .ok (none, offset)
  else do
    let (tag, newOffset) ← decodeTag data offset
    if tag.cls = .context ∧ tag.number = number ∧ tag.isOpening = false ∧ tag.isClosing = false then
      let value ← decode (slice data newOffset (newOffset + tag.length))
      .ok (some value, newOffset + tag.length)
    else .ok (none, offset)

/-- Whether an optional construction comes next; the offset is then behind its opening tag. -/
def optionalOpening (number : Nat) : Decoder Bool := of fun data offset =>
  if data.length ≤ offset then .ok (false, offset)
  else do
    let (tag, newOffset) ← decodeTag data offset
    if tag.cls = .context ∧ tag.number = number ∧ tag.isOpening = true then .ok (true, newOffset)
    else .ok (false, offset)

/-- Whether the closing tag of a list comes next. -/
def closes (number : Nat) : Decoder Bool := of fun data offset => do
  let (tag, newOffset) ← decodeTag data offset
  if tag.isClosing = true ∧ tag.number = number then .ok (true, newOffset)
  else .ok (false, offset)

/-- What is raised at `_MAX_DECODED_ITEMS` items. -/
def tooManyItems : Raised :=
  .builtin (.valueError s!"Decoded item count exceeds limit ({maxDecodedItems})")

/-- The loop over the items up to the closing tag of their list. -/
def items {Item : Type} (number : Nat) (item : Decoder Item) : Decoder (List Item) :=
  itemsUntil (closes number) item maxDecodedItems tooManyItems

/-- The loop over the items up to the end of the octets. -/
def itemsToEnd {Item : Type} (item : Decoder Item) : Decoder (List Item) :=
  itemsUntil (pure false) item maxDecodedItems tooManyItems

end Decoder

-- The tags that come next

def StartsWith (accepts : Tag → Prop) (octets : Bytes) : Prop :=
  ∃ header tag rest, TagHeader header tag ∧ accepts tag ∧ octets = header ++ rest

def Next (accepts : Tag → Prop) (octets : Bytes) : Prop := octets = [] ∨ StartsWith accepts octets

def Tag.IsContext (number : Nat) (tag : Tag) : Prop :=
  tag.cls = .context ∧ tag.number = number ∧ tag.isOpening = false ∧ tag.isClosing = false

def Tag.IsApplication (number : Nat) (tag : Tag) : Prop :=
  tag.cls = .application ∧ tag.number = number ∧ tag.isOpening = false ∧ tag.isClosing = false

def Tag.Opens (number : Nat) (tag : Tag) : Prop :=
  tag.cls = .context ∧ tag.number = number ∧ tag.isOpening = true ∧ tag.isClosing = false

def Tag.Closes (number : Nat) (tag : Tag) : Prop :=
  tag.cls = .context ∧ tag.number = number ∧ tag.isOpening = false ∧ tag.isClosing = true

section Tags

variable {accepts accepts' : Tag → Prop} {octets : Bytes}

theorem StartsWith.mono (starts : StartsWith accepts octets) (more : ∀ tag, accepts tag → accepts' tag)
    : StartsWith accepts' octets := by
  obtain ⟨header, tag, rest, reads, accepted, same⟩ := starts
  exact ⟨header, tag, rest, reads, more _ accepted, same⟩

theorem Next.mono (next : Next accepts octets) (more : ∀ tag, accepts tag → accepts' tag)
    : Next accepts' octets :=
  next.imp_right fun starts => starts.mono more

theorem StartsWith.next (starts : StartsWith accepts octets)
    (more : ∀ tag, accepts tag → accepts' tag)
    : Next accepts' octets :=
  .inr (starts.mono more)

theorem StartsWith.of_header {header rest tag} (reads : TagHeader header tag)
    (accepted : accepts tag)
    : StartsWith accepts (header ++ rest) :=
  ⟨header, tag, rest, reads, accepted, rfl⟩

theorem not_startsWith_nil : ¬ StartsWith accepts [] := by
  rintro ⟨header, tag, rest, reads, _, same⟩
  have positive := reads.length_pos
  have empty := congrArg List.length same
  rw [List.length_nil, List.length_append] at empty
  omega

/-- The tag that comes next is the only one that is read. -/
theorem StartsWith.read (starts : StartsWith accepts octets) (before : Bytes)
    : ∃ tag later, accepts tag ∧ decodeTag (before ++ octets) before.length = .ok (tag, later) := by
  obtain ⟨header, tag, rest, reads, accepted, rfl⟩ := starts
  exact ⟨tag, _, accepted, reads before rest⟩

end Tags

-- What fields carry

/-- The content of a field is encoded and decoded to the value, and short enough for the decoder of
its tag.
-/
def Contains {Refusal Value : Type} (encoded : Except Refusal Bytes)
    (decode : Bytes → Except PyException Value) (value : Value) : Prop :=
  ∃ content, encoded = .ok content ∧ content.length ≤ 1048576 ∧ decode content = .ok value

/-- The content of a field is a few octets, which are decoded to the value. -/
def ContainsFew {Value : Type} (encoded : Except PyException Bytes)
    (decode : Bytes → Except PyException Value) (value : Value) : Prop :=
  ∃ content, encoded = .ok content ∧ content.length ≤ 4 ∧ decode content = .ok value

theorem ContainsFew.contains {Value : Type} {encoded : Except PyException Bytes}
    {decode : Bytes → Except PyException Value} {value : Value}
    (few : ContainsFew encoded decode value)
    : Contains encoded decode value := by
  obtain ⟨content, encoded, short, decoded⟩ := few
  exact ⟨content, encoded, by omega, decoded⟩

/-- A part of an encoding that says itself where it ends, and which tag it starts with. -/
abbrev CarriesField {Refusal Value : Type} (first : Tag → Prop) (part : Except Refusal Bytes)
    (decoder : Decoder Value) (value : Value) : Prop :=
  Carries (fun _ => True) (StartsWith first) part decoder value

namespace Decoder

variable {Value : Type} {decode : Bytes → Except PyException Value} {value : Value}
  {header octets : Bytes} {tag' : Tag}

theorem of_run {reader data offset later} (read : reader data offset = .ok (value, later))
    : of reader data offset = .ok (value, later) := by
  rw [of, read, raising_ok]

theorem run_eq_ok {decoder : Decoder Value} {data : Bytes} {later : Nat}
    (read : decoder data 0 = .ok (value, later))
    : decoder.run data = .ok value := by
  rw [run, read]
  rfl

theorem run_eq_error {decoder : Decoder Value} {data : Bytes} {raised : Raised}
    (failed : decoder data 0 = .error raised)
    : decoder.run data = .error raised := by
  rw [run, failed]
  rfl

theorem parses_tag (reads : TagHeader header tag') : Parses (fun _ => True) tag header tag' :=
  fun before after _ => of_run (reads before after)

/-- A content behind the header of its tag is decoded. -/
theorem parses_field (reads : TagHeader header tag') (length : tag'.length = octets.length)
    (decoded : decode octets = .ok value)
    : Parses (fun _ => True) (field decode) (header ++ octets) value := by
  intro before after _
  have here : (before ++ (header ++ octets ++ after)).drop before.length
      = header ++ (octets ++ after) := by
    rw [List.append_assoc, List.drop_left]
  have element : decodeElement (before ++ (header ++ octets ++ after)) before.length
      = .ok (tag', octets, before.length + (header ++ octets).length) := by
    have found := slice_here (drop_behind here)
    rw [List.length_append, ← Nat.add_assoc]
    simp only [decodeElement, reads.decoded here, bind, Except.bind, length, found]
  have read : content (before ++ (header ++ octets ++ after)) before.length
      = .ok (octets, before.length + (header ++ octets).length) :=
    of_run (by simp only [element, bind, Except.bind])
  rw [field, Parser.bind_run read, decoded, raising_ok]
  rfl

end Decoder

section Fields

variable {Refusal Value : Type} {number : Nat} {content : Except PyException Bytes}
  {decode : Bytes → Except PyException Value} {value : Value}

theorem carries_context (inRange : number ≤ 254) (contains : Contains content decode value)
    : CarriesField (Tag.IsContext number) (content >>= encodeContextTagged number)
        (Decoder.field decode) value := by
  obtain ⟨octets, rfl, sane, decoded⟩ := contains
  obtain ⟨header, tagged⟩ := (encodeTag_ok_iff inRange .context).mpr
    (show octets.length < 256 ^ 4 by omega)
  have reads := encodeTag_header tagged sane
  refine ⟨header ++ octets, ?_, Decoder.parses_field reads rfl decoded, fun tail _ => ?_⟩
  · exact bind_eq_ok.mpr ⟨octets, rfl, bind_eq_ok.mpr ⟨header, tagged, rfl⟩⟩
  · rw [List.append_assoc]
    exact .of_header reads ⟨rfl, rfl, rfl, rfl⟩

theorem carries_application (inRange : number ≤ 254) (contains : Contains content decode value)
    : CarriesField (Tag.IsApplication number) (content >>= encodeApplicationTagged number)
        (Decoder.field decode) value := by
  obtain ⟨octets, rfl, sane, decoded⟩ := contains
  obtain ⟨header, tagged⟩ := (encodeTag_ok_iff inRange .application).mpr
    (show octets.length < 256 ^ 4 by omega)
  have reads := encodeTag_header tagged sane
  refine ⟨header ++ octets, ?_, Decoder.parses_field reads rfl decoded, fun tail _ => ?_⟩
  · exact bind_eq_ok.mpr ⟨octets, rfl, bind_eq_ok.mpr ⟨header, tagged, rfl⟩⟩
  · rw [List.append_assoc]
    exact .of_header reads ⟨rfl, rfl, rfl, rfl⟩

/-- A context tag together with its content. -/
theorem carries_element (inRange : number ≤ 254) {octets} (sane : octets.length ≤ 1048576)
    : CarriesField (Tag.IsContext number) (encodeContextTagged number octets) Decoder.element
        ({ number, cls := .context, length := octets.length }, octets) := by
  obtain ⟨chunk, tagged⟩ := (encodeContextTagged_ok_iff inRange).mpr
    (show octets.length < 256 ^ 4 by omega)
  have field := isField_of_tagged tagged sane
  refine ⟨chunk, tagged, fun before after _ => ?_, fun tail _ => ?_⟩
  · have here : (before ++ (chunk ++ after)).drop before.length = chunk ++ after := List.drop_left
    apply Decoder.of_run
    rw [decodeElement_field field here]
    rfl
  · obtain ⟨header, reads, rfl⟩ := field
    rw [List.append_assoc]
    exact .of_header reads ⟨rfl, rfl, rfl, rfl⟩

theorem carries_openingTag (inRange : number ≤ 254)
    : CarriesField (Tag.Opens number) (.ok (encodeOpeningTag number) : Except Refusal Bytes)
        Decoder.tag { number, cls := .context, length := 0, isOpening := true } := by
  have reads := encodeOpeningTag_header inRange
  exact ⟨_, rfl, Decoder.parses_tag reads, fun tail _ => .of_header reads ⟨rfl, rfl, rfl, rfl⟩⟩

theorem carries_closingTag (inRange : number ≤ 254)
    : CarriesField (Tag.Closes number) (.ok (encodeClosingTag number) : Except Refusal Bytes)
        Decoder.tag { number, cls := .context, length := 0, isClosing := true } := by
  have reads := encodeClosingTag_header inRange
  exact ⟨_, rfl, Decoder.parses_tag reads, fun tail _ => .of_header reads ⟨rfl, rfl, rfl, rfl⟩⟩

/-- An opening tag that is looked at is the right one. -/
theorem carries_opening (inRange : number ≤ 254) (message : String)
    : CarriesField (Tag.Opens number) (.ok (encodeOpeningTag number) : Except Refusal Bytes)
        (Decoder.opening number message) () := by
  have reads := encodeOpeningTag_header inRange
  refine ⟨_, rfl, fun before after _ => ?_, fun tail _ => .of_header reads ⟨rfl, rfl, rfl, rfl⟩⟩
  rw [Decoder.opening, Parser.bind_run (Decoder.parses_tag reads before after trivial),
    if_pos ⟨rfl, rfl⟩, Parser.pure_run]

theorem carries_closing (inRange : number ≤ 254) (message : String)
    : CarriesField (Tag.Closes number) (.ok (encodeClosingTag number) : Except Refusal Bytes)
        (Decoder.closing number message) () := by
  have reads := encodeClosingTag_header inRange
  refine ⟨_, rfl, fun before after _ => ?_, fun tail _ => .of_header reads ⟨rfl, rfl, rfl, rfl⟩⟩
  rw [Decoder.closing, Parser.bind_run (Decoder.parses_tag reads before after trivial),
    if_pos ⟨rfl, rfl⟩, Parser.pure_run]

variable {accepts : Tag → Prop}

/-- An optional field, in front of nothing that has its tag. -/
theorem carries_optionalContext {encode : Value → Except PyException Bytes}
    {field : Option Value} (inRange : number ≤ 254)
    (contains : ∀ value ∈ field, Contains (encode value) decode value)
    (other : ∀ tag, accepts tag → ¬ Tag.IsContext number tag)
    : Carries (Next accepts) (Next fun tag => Tag.IsContext number tag ∨ accepts tag)
        (encodeOptional (fun value => encode value >>= encodeContextTagged number) field)
        (Decoder.optionalContext number decode) field := by
  cases field with
  | none =>
    refine ⟨[], rfl, fun before after next => ?_, fun tail next => next.mono fun _ => .inr⟩
    rw [List.nil_append]
    apply Decoder.of_run
    rcases next with rfl | starts
    · rw [if_pos (by simp)]
      rfl
    · have inside : ¬ (before ++ after).length ≤ before.length := by
        rw [List.length_append]
        rcases after with _ | ⟨first, rest⟩
        · exact absurd starts not_startsWith_nil
        · rw [List.length_cons]
          omega
      obtain ⟨tag, later, accepted, read⟩ := starts.read before
      rw [if_neg inside, read]
      exact if_neg (other tag accepted)
  | some value =>
    obtain ⟨octets, encoded, sane, decoded⟩ := contains value rfl
    obtain ⟨header, tagged⟩ := (encodeTag_ok_iff inRange .context).mpr
      (show octets.length < 256 ^ 4 by omega)
    have reads := encodeTag_header tagged sane
    refine ⟨header ++ octets, ?_, fun before after _ => ?_, fun tail _ => ?_⟩
    · exact bind_eq_ok.mpr ⟨octets, encoded, bind_eq_ok.mpr ⟨header, tagged, rfl⟩⟩
    · have here : (before ++ (header ++ octets ++ after)).drop before.length
          = header ++ (octets ++ after) := by
        rw [List.append_assoc, List.drop_left]
      have found := slice_here (drop_behind here)
      apply Decoder.of_run
      rw [if_neg (Nat.not_le.mpr (reads.inside here)), reads.decoded here, List.length_append,
        ← Nat.add_assoc]
      simp only [bind, Except.bind, and_self, if_true, found, decoded]
    · rw [List.append_assoc]
      exact .inr (.of_header reads (.inl ⟨rfl, rfl, rfl, rfl⟩))

theorem carries_optionalOpening (inRange : number ≤ 254)
    : CarriesField (Tag.Opens number) (.ok (encodeOpeningTag number) : Except Refusal Bytes)
        (Decoder.optionalOpening number) true := by
  have reads := encodeOpeningTag_header inRange
  have positive := reads.length_pos
  refine ⟨_, rfl, fun before after _ => ?_, fun tail _ => .of_header reads ⟨rfl, rfl, rfl, rfl⟩⟩
  apply Decoder.of_run
  rw [if_neg (by rw [List.length_append, List.length_append]; omega), reads before after]
  exact if_pos ⟨rfl, rfl, rfl⟩

/-- What looks at the tag that comes next leaves another one alone. -/
theorem parses_nothing {absent : Value} {decoder : Decoder Value}
    (atEnd : ∀ data : Bytes, decoder data data.length = .ok (absent, data.length))
    (other : ∀ data offset tag later, offset < data.length → accepts tag →
      decodeTag data offset = .ok (tag, later) → decoder data offset = .ok (absent, offset))
    : Parses (Next accepts) decoder [] absent := by
  intro before after next
  rw [List.nil_append, List.length_nil, Nat.add_zero]
  rcases next with rfl | starts
  · rw [List.append_nil]
    exact atEnd before
  · obtain ⟨tag, later, accepted, read⟩ := starts.read before
    exact other _ _ _ _ (decodeTag_inside read) accepted read

theorem parses_noOpening (other : ∀ tag, accepts tag → ¬ Tag.Opens number tag)
    : Parses (Next accepts) (Decoder.optionalOpening number) [] false := by
  refine parses_nothing (fun data => ?_) fun data offset tag later inside accepted read => ?_
  · exact Decoder.of_run (if_pos (Nat.le_refl _))
  · apply Decoder.of_run
    rw [if_neg (Nat.not_le.mpr inside), read]
    refine if_neg fun opens => other tag accepted ⟨opens.1, opens.2.1, opens.2.2, ?_⟩
    exact (decodeTag_marked read).1 opens.2.2

theorem carries_items {Item : Type} {item : Decoder Item}
    {allowed : Bytes → Prop} {values : List Item} {encode : Item → Except Refusal Bytes}
    (inRange : number ≤ 254)
    (each : ∀ value ∈ values, Carries allowed (StartsWith accepts) (encode value) item value)
    (few : values.length < maxDecodedItems)
    (opens : ∀ tag, accepts tag → ¬ (tag.isClosing = true ∧ tag.number = number))
    (undisturbed : ∀ tail, StartsWith accepts tail → allowed tail)
    (ends : ∀ tail, StartsWith (Tag.Closes number) tail → allowed tail)
    : Carries (fun _ => True) (fun _ => True)
        (joined [joined (values.map encode), (.ok (encodeClosingTag number) : Except Refusal Bytes)])
        (Decoder.items number item) values := by
  have reads := encodeClosingTag_header inRange
  have positive := reads.length_pos
  refine Carries.items each few (fun before tail starts => ?_) undisturbed (fun before after _ => ?_)
    (List.length_pos_iff.mp positive) fun tail => ends _ (.of_header reads ⟨rfl, rfl, rfl, rfl⟩)
  · obtain ⟨tag, later, accepted, read⟩ := starts.read before
    refine ⟨before.length, Decoder.of_run ?_⟩
    rw [read]
    exact if_neg (opens tag accepted)
  · apply Decoder.of_run
    rw [reads before after]
    exact if_pos ⟨rfl, rfl⟩

/-- A list up to the end of the octets. -/
theorem carries_itemsToEnd {Item : Type} {item : Decoder Item}
    {allowed : Bytes → Prop} {values : List Item} {encode : Item → Except Refusal Bytes}
    (each : ∀ value ∈ values, Carries allowed (StartsWith accepts) (encode value) item value)
    (few : values.length < maxDecodedItems)
    (undisturbed : ∀ tail, StartsWith accepts tail → allowed tail) (ends : allowed [])
    : Carries (· = []) (fun _ => True) (joined (values.map encode)) (Decoder.itemsToEnd item)
        values :=
  Carries.itemsToEnd each few undisturbed not_startsWith_nil ends

/-- What a whole encoding carries is what the decoder returns. -/
theorem Decoder.run_of_carries {first allowed : Bytes → Prop} {part : Except Refusal Bytes}
    {decoder : Decoder Value} (carries : Carries allowed first part decoder value)
    (ends : allowed [])
    : ∃ octets, part = .ok octets ∧ decoder.run octets = .ok value := by
  obtain ⟨octets, encoded, read⟩ := carries.roundTrip ends
  exact ⟨octets, encoded, run_eq_ok read⟩

end Fields

-- Contents

theorem containsFew_unsigned {value : Nat} (small : value ≤ 0xFFFFFFFF)
    : ContainsFew (encodeUnsignedInt value) (fun octets => .ok (decodeUnsigned octets)) value := by
  obtain ⟨octets, encoded⟩ := encodeUnsigned_ok_iff.mpr small
  have short := length_encodeUnsigned encoded
  obtain ⟨_, rfl⟩ := encodeUnsigned_eq_ok.mp encoded
  exact ⟨_, (encodeUnsignedInt_natCast value).trans encoded, by omega,
    congrArg Except.ok (fromBytes_toBytes (lt_unsignedSize value))⟩

theorem containsFew_objectIdentifier (value)
    : ContainsFew (.ok value.encode) decodeObjectIdentifier value :=
  ⟨_, rfl, by rw [ObjectIdentifier.encode, length_toBytes], decodeObjectIdentifier_content value⟩

theorem containsFew_boolean (value : Bool)
    : ContainsFew (.ok (encodeBoolean value)) decodeBoolean value :=
  ⟨_, rfl, by rw [encodeBoolean, List.length_singleton]; omega, by cases value <;> rfl⟩

theorem contains_unsigned {value : Nat} (small : value ≤ 0xFFFFFFFF)
    : Contains (encodeUnsignedInt value) (fun octets => .ok (decodeUnsigned octets)) value :=
  (containsFew_unsigned small).contains

/-- A number of 32 bits has at most four octets. -/
theorem minSignedBytes_le {value} (lower : -0x80000000 ≤ value) (upper : value ≤ 0x7FFFFFFF)
    : minSignedBytes value ≤ 4 := by
  have bits (number : Nat) (small : number < 2 ^ 31) : bitLength number ≤ 31 := by
    unfold bitLength
    split
    · omega
    · next positive => exact (Nat.log2_lt positive).mpr small
  unfold minSignedBytes
  split
  · omega
  · split
    · have := bits value.toNat (by omega)
      omega
    · have := bits (-value - 1).toNat (by omega)
      omega

theorem contains_signed {value} (lower : -0x80000000 ≤ value) (upper : value ≤ 0x7FFFFFFF)
    : Contains (encodeSigned value) (fun octets => .ok (decodeSigned octets)) value := by
  refine ⟨_, if_neg (by omega), ?_, congrArg Except.ok (decodeSigned_content value)⟩
  rw [length_toBytes]
  have size := minSignedBytes_le lower upper
  omega

/-- The number of a member of an enumeration leads to the member. -/
theorem contains_enumerated {type : EnumType} (fits : type.fits = true) (value : type.Member)
    : Contains (encodeEnumerated value.number)
        (fun octets => Decoder.member type (decodeEnumerated octets)) value := by
  obtain ⟨octets, encoded⟩ := encodeUnsigned_ok_iff.mpr (value.small fits)
  have short := length_encodeUnsigned encoded
  obtain ⟨_, rfl⟩ := encodeUnsigned_eq_ok.mp encoded
  have number : decodeEnumerated (toBytes value.number (unsignedSize value.number)) = value.number :=
    fromBytes_toBytes (lt_unsignedSize value.number)
  refine ⟨_, encoded, by omega, ?_⟩
  dsimp only
  rw [number, Decoder.member, dif_pos value.accepted]

theorem contains_bitString {value} (sane : value.data.length < 1048576)
    : Contains (.ok (encodeBitString value) : Except PyException Bytes) decodeBitString value :=
  ⟨_, rfl, sane, decodeBitString_content value⟩

theorem contains_octetString {value} (sane : value.length ≤ 1048576)
    : Contains (.ok value : Except PyException Bytes) (fun octets => .ok octets) value :=
  ⟨_, rfl, sane, rfl⟩

-- Fields by their types

section Types

variable {number : Nat}

theorem carries_contextUnsigned (inRange : number ≤ 254) {value : Nat} (small : value ≤ 0xFFFFFFFF)
    : CarriesField (Tag.IsContext number) (encodeContextUnsigned number value) .unsigned value :=
  carries_context inRange (contains_unsigned small)

theorem carries_contextEnumerated (inRange : number ≤ 254) {type} (fits : type.fits = true)
    (value : type.Member)
    : CarriesField (Tag.IsContext number) (encodeContextEnumerated number value.number)
        (.enumerated type) value :=
  carries_context inRange (contains_enumerated fits value)

theorem carries_contextObjectId (inRange : number ≤ 254) (value : ObjectIdentifier)
    : CarriesField (Tag.IsContext number) (encodeContextObjectId number value) .objectIdentifier
        value :=
  carries_context inRange (containsFew_objectIdentifier value).contains

theorem carries_contextBoolean (inRange : number ≤ 254) (value : Bool)
    : CarriesField (Tag.IsContext number) (encodeContextTagged number (encodeBoolean value)) .boolean
        value :=
  carries_context inRange (containsFew_boolean value).contains

theorem carries_contextBitString (inRange : number ≤ 254) {value}
    (sane : value.data.length < 1048576)
    : CarriesField (Tag.IsContext number) (encodeContextTagged number (encodeBitString value))
        .bitString value :=
  carries_context inRange (contains_bitString sane)

theorem carries_applicationBoolean (value : Bool)
    : CarriesField (Tag.IsApplication 1) (encodeApplicationBoolean value) .applicationBoolean
        value := by
  obtain ⟨header, tagged⟩ := (encodeTag_ok_iff (show 1 ≤ 254 by decide) .application).mpr
    (show value.toNat < 256 ^ 4 by cases value <;> decide)
  have reads := encodeTag_header tagged (by cases value <;> decide)
  refine ⟨header, tagged, fun before after _ => ?_, fun tail _ => .of_header reads ⟨rfl, rfl, rfl, rfl⟩⟩
  rw [Decoder.applicationBoolean, Parser.bind_run (Decoder.parses_tag reads before after trivial)]
  cases value <;> rfl

theorem carries_applicationUnsigned {value : Nat} (small : value ≤ 0xFFFFFFFF)
    : CarriesField (Tag.IsApplication 2) (encodeApplicationUnsigned value) .unsigned value :=
  carries_application (by decide) (contains_unsigned small)

theorem carries_applicationSigned {value} (lower : -0x80000000 ≤ value) (upper : value ≤ 0x7FFFFFFF)
    : CarriesField (Tag.IsApplication 3) (encodeApplicationSigned value) .signed value :=
  carries_application (by decide) (contains_signed lower upper)

theorem carries_applicationEnumerated {type} (fits : type.fits = true) (value : type.Member)
    : CarriesField (Tag.IsApplication 9) (encodeApplicationEnumerated value.number)
        (.enumerated type) value :=
  carries_application (by decide) (contains_enumerated fits value)

theorem carries_applicationObjectId (value : ObjectIdentifier)
    : CarriesField (Tag.IsApplication 12) (encodeApplicationObjectId value) .objectIdentifier value :=
  carries_application (by decide) (containsFew_objectIdentifier value).contains

theorem carries_applicationBitString {value} (sane : value.data.length < 1048576)
    : CarriesField (Tag.IsApplication 8) (encodeApplicationBitString value) .bitString value :=
  carries_application (by decide) (contains_bitString sane)

theorem carries_applicationOctetString {value} (sane : value.length ≤ 1048576)
    : CarriesField (Tag.IsApplication 6) (encodeApplicationOctetString value) .octetString value :=
  carries_application (by decide) (contains_octetString sane)

/-- An optional number, in front of nothing that has its tag. -/
theorem carries_contextOptional {accepts : Tag → Prop} {field : Option Nat} (inRange : number ≤ 254)
    (small : ∀ value ∈ field, value ≤ 0xFFFFFFFF)
    (other : ∀ tag, accepts tag → ¬ Tag.IsContext number tag)
    : Carries (Next accepts) (Next fun tag => Tag.IsContext number tag ∨ accepts tag)
        (encodeContextOptional number field)
        (Decoder.optionalContext number fun octets => .ok (decodeUnsigned octets)) field := by
  have same : encodeContextOptional number field
      = encodeOptional (fun value : Nat => encodeUnsignedInt value >>= encodeContextTagged number)
        field := by
    cases field <;> rfl
  rw [same]
  exact carries_optionalContext inRange (fun value given => contains_unsigned (small value given)) other

theorem carries_optionalEnumerated {accepts : Tag → Prop} {type : EnumType} (inRange : number ≤ 254)
    (fits : type.fits = true) (field : Option type.Member)
    (other : ∀ tag, accepts tag → ¬ Tag.IsContext number tag)
    : Carries (Next accepts) (Next fun tag => Tag.IsContext number tag ∨ accepts tag)
        (encodeOptional (encodeContextEnumerated number ·.number) field)
        (Decoder.optionalContext number fun octets => Decoder.member type (decodeUnsigned octets))
        field :=
  carries_optionalContext inRange (fun value _ => contains_enumerated fits value) other

/-- A time stamp whose year is read back. -/
theorem carries_timeStamp {value} (wellFormed : value.WellFormed) (kept : value.YearKept)
    : Carries (fun _ => True) (fun _ => True) value.encode (Decoder.of BACnetTimeStamp.decode)
        value := by
  obtain ⟨octets, encoded, read⟩ := BACnetTimeStamp.decode_encode wellFormed
  refine ⟨octets, encoded, fun before after _ => ?_, fun _ _ => trivial⟩
  have decoded := read (before ++ (octets ++ after)) before.length after List.drop_left
  rw [BACnetTimeStamp.readBack_iff.mpr kept] at decoded
  exact Decoder.of_run decoded

end Types

end BacPy
