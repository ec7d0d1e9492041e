import BacPy.Encoding.Values

/-! Which values `encode_property_value` can encode. Its failures have different exception types,
and only a `TypeError` is reported as an error of the property.
-/

namespace BacPy

-- Primitive encoders

/-- A step that is followed by others that do not depend on its result. -/
theorem bind_const_ok_iff {Item Result : Type} {first : Except PyException Item}
    {next : Item → Except PyException Result} {succeeds : Prop}
    (later : ∀ item, (∃ result, next item = .ok result) ↔ succeeds)
    : (∃ result, (first >>= next) = .ok result) ↔ (∃ item, first = .ok item) ∧ succeeds := by
  constructor
  · rintro ⟨result, ended⟩
    obtain ⟨item, here, there⟩ := bind_eq_ok.mp ended
    exact ⟨⟨item, here⟩, (later item).mp ⟨result, there⟩⟩
  · rintro ⟨⟨item, here⟩, holds⟩
    obtain ⟨result, there⟩ := (later item).mpr holds
    exact ⟨result, bind_eq_ok.mpr ⟨item, here, there⟩⟩

theorem returned_ok_iff {Item : Type} (item : Item)
    : (∃ result, (.ok item : Except PyException Item) = .ok result) ↔ True := by
  simp

theorem encodeApplicationTagged_ok_iff {number : Nat} (small : number ≤ 14) {data : Bytes}
    : (∃ octets, encodeApplicationTagged number data = .ok octets) ↔ data.length < 256 ^ 4 := by
  rw [encodeApplicationTagged, bind_const_ok_iff fun header => returned_ok_iff _,
    encodeTag_ok_iff (show number ≤ 254 by omega), and_true]

theorem length_encodeUnsigned {value octets} (encoded : encodeUnsigned value = .ok octets)
    : octets.length ≤ 4 := by
  unfold encodeUnsigned at encoded
  split at encoded
  · cases encoded
    simp
  · split at encoded
    · cases encoded
    · next small =>
        cases encoded
        have bound : Nat.log2 value < 32 := by
          rw [Nat.log2_lt (by omega)]
          omega
        rw [length_toBytes]
        omega

theorem encodeUnsigned_ok_iff {value}
    : (∃ octets, encodeUnsigned value = .ok octets) ↔ value ≤ 0xFFFFFFFF := by
  unfold encodeUnsigned
  split
  · simp only [Except.ok.injEq, exists_eq', true_iff]
    omega
  · split
    · simp only [reduceCtorEq, exists_false, false_iff]
      omega
    · simp only [Except.ok.injEq, exists_eq', true_iff]
      omega

/-- An encoder that puts its content behind a tag. -/
theorem tagged_ok_iff {number} (small : number ≤ 14) {content}
    (short : ∀ data, content = .ok data → data.length < 256 ^ 4)
    : (∃ octets, (content >>= encodeApplicationTagged number) = .ok octets)
      ↔ ∃ data, content = .ok data := by
  constructor
  · rintro ⟨octets, encoded⟩
    obtain ⟨data, here, _⟩ := bind_eq_ok.mp encoded
    exact ⟨data, here⟩
  · rintro ⟨data, here⟩
    obtain ⟨octets, encoded⟩ := (encodeApplicationTagged_ok_iff small).mpr (short data here)
    exact ⟨octets, bind_eq_ok.mpr ⟨data, here, encoded⟩⟩

theorem encodeApplicationUnsigned_ok_iff {value}
    : (∃ octets, encodeApplicationUnsigned value = .ok octets)
      ↔ 0 ≤ value ∧ value ≤ 0xFFFFFFFF := by
  have short : ∀ data, encodeUnsignedInt value = .ok data → data.length < 256 ^ 4 := by
    intro data encoded
    unfold encodeUnsignedInt at encoded
    split at encoded
    · cases encoded
    · have := length_encodeUnsigned encoded
      omega
  rw [encodeApplicationUnsigned, tagged_ok_iff (by decide) short]
  unfold encodeUnsignedInt
  split
  · simp only [reduceCtorEq, exists_false, false_iff]
    omega
  · rw [encodeUnsigned_ok_iff]
    omega

theorem encodeApplicationEnumerated_ok_iff {value}
    : (∃ octets, encodeApplicationEnumerated value = .ok octets) ↔ value ≤ 0xFFFFFFFF := by
  have short : ∀ data, encodeEnumerated value = .ok data → data.length < 256 ^ 4 := by
    intro data encoded
    have := length_encodeUnsigned encoded
    omega
  rw [encodeApplicationEnumerated, tagged_ok_iff (by decide) short]
  exact encodeUnsigned_ok_iff

/-- Every field of a date fits in its octet, the year as an offset. -/
def BACnetDate.fits (date : BACnetDate) : Bool :=
  (date.year = 0xFF ∨ (1900 ≤ date.year ∧ date.year ≤ 2155)) ∧ date.month < 256 ∧ date.day < 256
    ∧ date.dayOfWeek < 256

def BACnetTime.fits (time : BACnetTime) : Bool :=
  time.hour < 256 ∧ time.minute < 256 ∧ time.second < 256 ∧ time.hundredth < 256

theorem octet_ok_iff {value} : (∃ encoded, octet value = .ok encoded) ↔ value < 256 := by
  unfold octet
  split
  · next fits => simp [fits]
  · next large => simp [large]

/-- Four numbers are four octets, if each of them is one. -/
theorem fourOctets_ok_iff {first second third fourth : Nat}
    : (∃ octets, (do
          let first ← octet first
          let second ← octet second
          let third ← octet third
          let fourth ← octet fourth
          .ok [first, second, third, fourth] : Except PyException Bytes) = .ok octets)
      ↔ first < 256 ∧ second < 256 ∧ third < 256 ∧ fourth < 256 := by
  rw [bind_const_ok_iff fun _ => bind_const_ok_iff fun _ => bind_const_ok_iff fun _ =>
    bind_const_ok_iff fun _ => returned_ok_iff _]
  simp only [octet_ok_iff, and_true]

theorem encodeDate_ok_iff {date}
    : (∃ octets, encodeDate date = .ok octets) ↔ date.fits := by
  unfold encodeDate BACnetDate.fits
  split
  · next outside =>
      simp only [reduceCtorEq, exists_false, false_iff, decide_eq_true_eq]
      rintro ⟨inside, _⟩
      omega
  · next inside =>
      rw [fourOctets_ok_iff, decide_eq_true_eq]
      split <;> omega

theorem encodeTime_ok_iff {time}
    : (∃ octets, encodeTime time = .ok octets) ↔ time.fits := by
  rw [encodeTime, fourOctets_ok_iff, BACnetTime.fits, decide_eq_true_eq]

theorem length_encodeDate {date octets} (encoded : encodeDate date = .ok octets)
    : octets.length = 4 := by
  unfold encodeDate at encoded
  split at encoded
  · cases encoded
  · simp only [bind_eq_ok] at encoded
    obtain ⟨year, _, month, _, day, _, dayOfWeek, _, same⟩ := encoded
    rw [← Except.ok.inj same]
    rfl

theorem length_encodeTime {time octets} (encoded : encodeTime time = .ok octets)
    : octets.length = 4 := by
  simp only [encodeTime, bind_eq_ok] at encoded
  obtain ⟨hour, _, minute, _, second, _, hundredth, _, same⟩ := encoded
  rw [← Except.ok.inj same]
  rfl

/-- A float has a binary32 neighbour that is not infinite, or is itself not finite. -/
def fitsReal (value : Float) : Bool := !(value.isFinite && !(narrow value).isFinite)

theorem encodeApplicationReal_spec (value : Float)
    : (fitsReal value ∧ ∃ octets, encodeApplicationReal value = .ok octets)
      ∨ (¬ fitsReal value ∧ ∃ message, encodeApplicationReal value = .error (.overflowError message)) := by
  unfold encodeApplicationReal encodeReal fitsReal
  split
  · next large =>
      rw [large]
      exact Or.inr ⟨by simp, _, rfl⟩
  · next fits =>
      have length : (toBytes (narrow value).toBits.toNat 4).length < 256 ^ 4 := by
        rw [length_toBytes]
        decide
      have small : 4 ≤ 14 := by decide
      obtain ⟨octets, encoded⟩ := (encodeApplicationTagged_ok_iff small).mpr length
      rw [Bool.not_eq_true] at fits
      refine Or.inl ⟨by rw [fits]; rfl, octets, ?_⟩
      simp only [bind, Except.bind, encoded, raising_ok]

-- Property values

/-- An encoding is there, or it has been refused for the type of the value, which is reported as an
error of the property, or for its size.
-/
inductive Encoding where
  | octets | unsupported | outOfRange

/-- The way an encoder ends. -/
def Encoding.of : Except Raised Bytes → Encoding
  | .ok _ => .octets
  | .error (.typeError _) | .error (.bacnetError _ _) => .unsupported
  | .error _ => .outOfRange

/-- A condition on the size of a value. -/
def Encoding.when (fits : Bool) : Encoding := if fits then .octets else .outOfRange

def Scalar.encoding (value : Scalar) (intAsReal : Bool) : Encoding :=
  match value with
  | .none | .bool _ | .objectIdentifier _ | .statusFlags _ | .noneSource | .double _ | .bytes _ =>
    .octets
  | .int value =>
    if intAsReal then .when ((Float.ofInt value).isFinite && fitsReal (Float.ofInt value))
    else .when (0 ≤ value ∧ value ≤ 0xFFFFFFFF)
  | .enum _ number => .when (number ≤ 0xFFFFFFFF)
  | .float value => .when (fitsReal value)
  | .str value => .when ((encodeCharacterString value).length < 256 ^ 4)
  | .bitString value => .when ((encodeBitString value).length < 256 ^ 4)
  | .date value => .when value.fits
  | .time value => .when value.fits
  | .foreign value => .of (if intAsReal then value.encodingAsReal else value.encoding)

mutual

def Value.encoding (value : Value) (intAsReal : Bool) : Encoding :=
  match value with
  | .scalar value => value.encoding intAsReal
  | .list items => itemsEncoding items intAsReal

/-- How the items of a list are encoded: the first one that cannot be ends it. -/
def itemsEncoding (items : List Value) (intAsReal : Bool) : Encoding :=
  match items with
  | [] => .octets
  | item :: rest =>
    match Value.encoding item intAsReal with
    | .octets => itemsEncoding rest intAsReal
    | refused => refused

end

@[simp] theorem Encoding.of_raising {outcome fits}
    (exact : (∃ octets, outcome = .ok octets) ↔ fits = true)
    : Encoding.of (raising outcome) = .when fits := by
  cases outcome with
  | ok octets =>
    have holds : fits = true := exact.mp ⟨octets, rfl⟩
    rw [holds]
    rfl
  | error raised =>
    have fails : fits = false := by
      rw [Bool.eq_false_iff]
      intro holds
      obtain ⟨octets, same⟩ := exact.mpr holds
      cases same
    rw [fails]
    rfl

/-- A tagged content is encoded if its length fits in four octets. -/
theorem encoding_tagged {number} (small : number ≤ 14) (data : Bytes)
    : Encoding.of (raising (encodeApplicationTagged number data))
      = .when (data.length < 256 ^ 4) :=
  Encoding.of_raising (by rw [encodeApplicationTagged_ok_iff small, decide_eq_true_eq])

theorem encoding_short {number} (small : number ≤ 14) {data} (short : data.length < 256 ^ 4)
    : Encoding.of (raising (encodeApplicationTagged number data)) = .octets := by
  rw [encoding_tagged small, decide_eq_true short]
  rfl

theorem encoding_real (value : Float)
    : Encoding.of (encodeApplicationReal value) = .when (fitsReal value) := by
  rcases encodeApplicationReal_spec value with ⟨fits, octets, encoded⟩ | ⟨large, message, refused⟩
  · rw [encoded, fits]
    rfl
  · rw [Bool.not_eq_true] at large
    rw [refused, large]
    rfl

/-- The encoder ends in the way that the value decides. -/
theorem of_encodeScalar (value : Scalar) (intAsReal : Bool)
    : Encoding.of (encodeScalar value intAsReal) = value.encoding intAsReal := by
  cases value with
  | none => exact encoding_short (by decide) (by simp)
  | objectIdentifier value =>
    exact encoding_short (by decide) (by rw [ObjectIdentifier.encode, length_toBytes]; decide)
  | statusFlags value =>
    exact encoding_short (by decide) (by simp [encodeBitString, StatusFlags.toBitString])
  | noneSource => rfl
  | foreign value => rfl
  | bitString value => exact encoding_tagged (by decide) _
  | date value =>
    apply Encoding.of_raising
    rw [tagged_ok_iff (by decide), encodeDate_ok_iff]
    intro data encoded
    rw [length_encodeDate encoded]
    decide
  | time value =>
    apply Encoding.of_raising
    rw [tagged_ok_iff (by decide), encodeTime_ok_iff]
    intro data encoded
    rw [length_encodeTime encoded]
    decide
  | str value => exact encoding_tagged (by decide) _
  | bool value => cases value <;> rfl
  | enum type number =>
    apply Encoding.of_raising
    rw [encodeApplicationEnumerated_ok_iff, decide_eq_true_eq]
  | double value =>
    exact encoding_short (by decide) (by rw [encodeDouble, length_toBytes]; decide)
  | float value => exact encoding_real value
  | int value =>
    cases intAsReal with
    | false =>
      apply Encoding.of_raising
      rw [encodeApplicationUnsigned_ok_iff, decide_eq_true_eq]
    | true =>
      unfold encodeScalar Scalar.encoding Value.floatOfInt
      dsimp only
      cases (Float.ofInt value).isFinite with
      | true => exact encoding_real _
      | false => rfl
  | bytes value => rfl

mutual

theorem of_encodePropertyValue (value : Value) (intAsReal : Bool)
    : Encoding.of (encodePropertyValue value intAsReal) = value.encoding intAsReal := by
  cases value with
  | scalar value =>
    rw [encodePropertyValue, Value.encoding]
    exact of_encodeScalar value intAsReal
  | list items =>
    rw [encodePropertyValue, Value.encoding]
    exact of_encodeItems items intAsReal

theorem of_encodeItems (items : List Value) (intAsReal : Bool)
    : Encoding.of (encodeItems items intAsReal) = itemsEncoding items intAsReal := by
  cases items with
  | nil =>
    rw [encodeItems, itemsEncoding]
    rfl
  | cons item rest =>
    have here := of_encodePropertyValue item intAsReal
    have later := of_encodeItems rest intAsReal
    rw [encodeItems, itemsEncoding, ← here, ← later]
    cases encodePropertyValue item intAsReal with
    | ok first =>
      cases encodeItems rest intAsReal with
      | ok others => rfl
      | error raised => cases raised <;> rfl
    | error raised => cases raised <;> rfl

end

end BacPy
