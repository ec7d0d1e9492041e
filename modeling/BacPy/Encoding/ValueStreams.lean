import BacPy.Encoding.Reencoding

/-! Which lists of Python values `decode_all_application_values` gets out of what
`encode_property_value` makes of their items: the encoder chooses the tag by the type, the decoder
the type by the tag.
-/

namespace BacPy

-- Equality across the round trip

/-- The offset at which the loop of `decode_all_application_values` ends. -/
def valuesEnd (data : Bytes) : Nat → Nat → Except PyException Nat
  | 0, offset => .ok offset
  | fuel + 1, offset => do
      if data.length ≤ offset then .ok offset
      else
        let (tag, tagEnd) ← decodeTag data offset
        valuesEnd data fuel (if tag.number = 1 then tagEnd else tagEnd + tag.length)

/-- The encodings of the values, one after the other, are decoded to equal values, to the last
octet.
-/
def RoundTrips [JapaneseCodec] (values : List Scalar) : Prop :=
  ∃ octets results, encodeItems (values.map .scalar) false = .ok octets
    ∧ decodeAllApplicationValues octets = .ok results
    ∧ valuesEnd octets (octets.length + 1) 0 = .ok octets.length
    ∧ List.Forall₂ (fun value result => Value.pyEq (.scalar value) result) values results

namespace Scalar

/-- The values whose types have a tag of their own: of the integers the Unsigneds, of the floats
those that are Reals.
-/
def Streamable : Scalar → Prop
  | .none | .bool _ | .double _ | .str _ | .bitString _ | .time _ | .objectIdentifier _ => True
  | .int value => 0 ≤ value ∧ value < 2 ^ 32
  | .float value => value.isFinite ∧ widen (narrow value) = value
  | .date value => value.year < 2155
  | _ => False

/-- Every field fits in its octet, and there is a year 1900. -/
def InRange : Scalar → Prop
  | .date value => value.fits
  | .time value => value.fits
  | _ => True

/-- The content is not taken for an attack. -/
def Sane : Scalar → Prop
  | .str value => value.utf8ByteSize < 1048576
  | .bitString value => value.data.length < 1048576
  | _ => True

def Comparable : Scalar → Prop
  | .double value => value.isNaN = false
  | _ => True

def sent : Scalar → ApplicationValue
  | .bool value => .boolean value
  | .int value => .unsigned value.toNat
  | .float value => .real (narrow value)
  | .double value => .double value
  | .str value => .characterString value
  | .bitString value => .bitString value
  | .date value =>
    .date (if value.year = 0xFF then 0xFF else UInt8.ofNat (value.year - 1900))
      (UInt8.ofNat value.month) (UInt8.ofNat value.day) (UInt8.ofNat value.dayOfWeek)
  | .time value =>
    .time (UInt8.ofNat value.hour) (UInt8.ofNat value.minute) (UInt8.ofNat value.second)
      (UInt8.ofNat value.hundredth)
  | .objectIdentifier value => .objectIdentifier value
  | _ => .null

theorem octetBack {field} (fits : field < 256) : (UInt8.ofNat field).toNat = field := by
  rw [UInt8.toNat_ofNat', Nat.mod_eq_of_lt fits]

/-- The decoder gets the fields of a date out of the octets they fit in. -/
theorem decoded_date {value} (kind : value.year < 2155) (fits : value.fits)
    : (sent (date value)).decoded = date value := by
  simp only [BACnetDate.fits, decide_eq_true_eq] at fits
  obtain ⟨since, month, day, dayOfWeek⟩ := fits
  have year : (if (if value.year = 0xFF then 0xFF else UInt8.ofNat (value.year - 1900)) = 0xFF
      then 0xFF
      else (if value.year = 0xFF then 0xFF else UInt8.ofNat (value.year - 1900)).toNat + 1900)
      = value.year := by
    by_cases unspecified : value.year = 0xFF
    · rw [if_pos unspecified, if_pos rfl, unspecified]
    · have back : (UInt8.ofNat (value.year - 1900)).toNat = value.year - 1900 :=
        octetBack (by omega)
      have specified : UInt8.ofNat (value.year - 1900) ≠ 0xFF := by
        intro same
        have := congrArg UInt8.toNat same
        rw [back] at this
        change value.year - 1900 = 255 at this
        omega
      rw [if_neg unspecified, if_neg specified, back]
      omega
  simp only [sent, ApplicationValue.decoded, year, octetBack month, octetBack day,
    octetBack dayOfWeek]

theorem decoded_time {value} (fits : value.fits)
    : (sent (time value)).decoded = time value := by
  simp only [BACnetTime.fits, decide_eq_true_eq] at fits
  obtain ⟨hour, minute, second, hundredth⟩ := fits
  simp only [sent, ApplicationValue.decoded, octetBack hour, octetBack minute, octetBack second,
    octetBack hundredth]

/-- What the encoder makes of a value is the encoding of its application value. -/
theorem encodeScalar_eq_ok {value} (kind : value.Streamable) {octets}
    : encodeScalar value false = .ok octets ↔ value.InRange ∧ value.sent.encoding = .ok octets := by
  cases value with
  | none | double value | str value | bitString value | objectIdentifier value =>
    simp only [InRange, true_and]
    exact raising_eq_ok
  | bool value =>
    simp only [InRange, true_and]
    cases value <;> exact raising_eq_ok
  | int value =>
    obtain ⟨positive, below⟩ := kind
    simp only [InRange, true_and]
    have unsigned : encodeUnsignedInt value
        = .ok (toBytes value.toNat (unsignedSize value.toNat)) := by
      rw [encodeUnsignedInt, if_neg (by omega), encodeUnsigned_eq (by omega)]
    have step : encodeScalar (.int value) false
        = raising (encodeUnsignedInt value >>= encodeApplicationTagged 2) := rfl
    rw [step, unsigned]
    exact raising_eq_ok
  | float value =>
    obtain ⟨_, exact⟩ := kind
    simp only [InRange, true_and]
    have real := encodeReal_widen (narrow value)
    rw [exact] at real
    have step : encodeScalar (.float value) false
        = raising (encodeApplicationTagged 4 (toBytes (narrow value).toBits.toNat 4)) := by
      change encodeReal value >>= _ = _
      rw [real]
      rfl
    rw [step]
    exact raising_eq_ok
  | date value =>
    have content (fits : value.fits) : encodeDate value = .ok (sent (.date value)).content :=
      (congrArg encodeDate (Scalar.date.inj (decoded_date kind fits))).symm.trans
        (encodeDate_content _ _ _ _)
    have step : encodeScalar (.date value) false
        = raising (encodeDate value >>= encodeApplicationTagged 10) := rfl
    rw [step, raising_eq_ok]
    constructor
    · intro encoded
      obtain ⟨data, fields, _⟩ := bind_eq_ok.mp encoded
      have fits := encodeDate_ok_iff.mp ⟨data, fields⟩
      rw [content fits] at encoded
      exact ⟨fits, encoded⟩
    · rintro ⟨fits, encoded⟩
      rw [content fits]
      exact encoded
  | time value =>
    have content (fits : value.fits) : encodeTime value = .ok (sent (.time value)).content :=
      (congrArg encodeTime (Scalar.time.inj (decoded_time fits))).symm.trans
        (encodeTime_content _ _ _ _)
    have step : encodeScalar (.time value) false
        = raising (encodeTime value >>= encodeApplicationTagged 11) := rfl
    rw [step, raising_eq_ok]
    constructor
    · intro encoded
      obtain ⟨data, fields, _⟩ := bind_eq_ok.mp encoded
      have fits := encodeTime_ok_iff.mp ⟨data, fields⟩
      rw [content fits] at encoded
      exact ⟨fits, encoded⟩
    · rintro ⟨fits, encoded⟩
      rw [content fits]
      exact encoded
  | _ => exact kind.elim

theorem number_of_finite {value : Float} (finite : value.isFinite) : value.isNaN = false := by
  change value.toModel.unpack.isFinite = true at finite
  change value.toModel.unpack.isNaN = false
  cases unpacked : value.toModel.unpack with
  | notANumber =>
    rw [unpacked] at finite
    cases finite
  | _ => rfl

/-- The value comes back, as an equal one: only a Double has lost its class. -/
theorem pyEq_decoded_sent {value : Scalar} (kind : value.Streamable) (inRange : value.InRange)
    : Value.pyEq (.scalar value) (.scalar value.sent.decoded) = true ↔ value.Comparable := by
  have back (same : value.sent.decoded = value) (number : (Value.scalar value).isNan = false)
      (comparable : value.Comparable)
      : Value.pyEq (.scalar value) (.scalar value.sent.decoded) = true ↔ value.Comparable := by
    rw [same]
    exact ⟨fun _ => comparable, fun _ => Value.pyEq_self number⟩
  cases value with
  | none | bool value | str value | bitString value | objectIdentifier value =>
    exact back rfl rfl trivial
  | int value =>
    refine back ?_ rfl trivial
    rw [sent, ApplicationValue.decoded, Int.toNat_of_nonneg kind.1]
  | float value => exact back (congrArg Scalar.float kind.2) (number_of_finite kind.1) trivial
  | double value =>
    have normal : (Value.double value).normal = (Value.float value).normal := by
      rw [Value.normal, Value.normal]
    have number : (Value.double value).isNan = value.isNaN := rfl
    have again : (Value.float value).isNan = value.isNaN := rfl
    change Value.pyEq (.double value) (.float value) = true ↔ value.isNaN = false
    rw [Value.pyEq, number, again, normal, decide_eq_true rfl]
    cases value.isNaN <;> decide
  | date value => exact back (decoded_date kind inRange) rfl trivial
  | time value => exact back (decoded_time inRange) rfl trivial
  | _ => exact kind.elim

/-- The content of a value is short enough exactly when the value is. -/
theorem tagLength_sent {value : Scalar} (kind : value.Streamable)
    : value.sent.tagLength ≤ 1048576 ↔ value.Sane := by
  have short (small : value.sent.tagLength ≤ 8) (sane : value.Sane)
      : value.sent.tagLength ≤ 1048576 ↔ value.Sane :=
    ⟨fun _ => sane, fun _ => by omega⟩
  cases value with
  | none => exact short (by decide) trivial
  | bool value => exact short (by cases value <;> decide) trivial
  | int value =>
    have below := kind.2
    have size := length_encodeUnsigned (encodeUnsigned_eq (show value.toNat ≤ _ by omega))
    exact short (Nat.le_trans size (by decide)) trivial
  | float value | double value | objectIdentifier value =>
    refine short ?_ trivial
    change (toBytes _ _).length ≤ 8
    simp
  | date value | time value => exact short (show 4 ≤ 8 by decide) trivial
  | str value =>
    have size : (sent (.str value)).tagLength = value.utf8ByteSize + 1 := by
      simp [sent, ApplicationValue.tagLength, ApplicationValue.content, encodeCharacterString]
    rw [size]
    exact Iff.rfl
  | bitString value => exact Iff.rfl
  | _ => exact kind.elim

end Scalar

-- Lists of values

namespace ApplicationValue

variable {values : List ApplicationValue} {octets : Bytes}

theorem exists_encodings (sane : ∀ value ∈ values, value.tagLength ≤ 1048576)
    : ∃ octets, encodings values = .ok octets := by
  induction values with
  | nil => exact ⟨[], rfl⟩
  | cons value rest ih =>
    rw [List.forall_mem_cons] at sane
    obtain ⟨others, there⟩ := ih sane.2
    have small : value.tagNumber ≤ 254 := by
      have := value.tagNumber_le
      omega
    have fits : value.tagLength < 256 ^ 4 := by
      have := sane.1
      omega
    obtain ⟨header, tagged⟩ := (encodeTag_ok_iff small .application).mpr fits
    refine ⟨_, encodings_cons.mpr ⟨header ++ value.content, others, ?_, there, rfl⟩⟩
    exact bind_eq_ok.mpr ⟨header, tagged, rfl⟩

/-- The decoder ends behind the last encoding, by induction on the values, with all octets before
the next one.
-/
theorem valuesEnd_encodings (before : Bytes) (encoded : encodings values = .ok octets)
    (sane : ∀ value ∈ values, value.tagLength ≤ 1048576) {fuel} (enough : octets.length < fuel)
    : valuesEnd (before ++ octets) fuel before.length = .ok (before ++ octets).length := by
  induction values generalizing before octets fuel with
  | nil =>
    cases encoded
    obtain ⟨rounds, rfl⟩ : ∃ rounds, fuel = rounds + 1 := ⟨fuel - 1, by omega⟩
    rw [valuesEnd, if_pos (by simp), List.append_nil]
  | cons value rest ih =>
    obtain ⟨first, others, here, there, rfl⟩ := encodings_cons.mp encoded
    obtain ⟨header, tagged, whole⟩ := bind_eq_ok.mp here
    rw [List.forall_mem_cons] at sane
    have small : value.tagNumber ≤ 14 := by
      have := value.tagNumber_le
      omega
    obtain ⟨lvt, extended, form, _⟩ := encodeTag_application small tagged
    have started : 0 < header.length := by simp [form]
    have length : first.length = header.length + value.content.length := by
      rw [← Except.ok.inj whole, List.length_append]
    obtain ⟨rounds, rfl⟩ : ∃ rounds, fuel = rounds + 1 := ⟨fuel - 1, by omega⟩
    rw [List.length_append] at enough
    have read := decodeTag_application before (value.content ++ others) small tagged
    rw [← List.append_assoc header, Except.ok.inj whole,
      if_neg (Nat.not_lt.mpr sane.1)] at read
    have inside : ¬ (before ++ (first ++ others)).length ≤ before.length := by
      rw [List.length_append, List.length_append]
      omega
    rw [valuesEnd, if_neg inside, read]
    simp only [bind, Except.bind]
    rw [elementEnd, Nat.add_assoc, ← length, ← List.length_append, ← List.append_assoc]
    exact ih (before ++ first) there sane.2 (by omega)

end ApplicationValue

variable {values : List Scalar}

/-- The encoder goes through the values one by one, by induction on them. -/
theorem encodeItems_eq_ok (kinds : ∀ value ∈ values, value.Streamable) {octets : Bytes}
    : encodeItems (values.map .scalar) false = .ok octets
      ↔ (∀ value ∈ values, value.InRange)
        ∧ ApplicationValue.encodings (values.map Scalar.sent) = .ok octets := by
  induction values generalizing octets with
  | nil =>
    simp only [List.map_nil, List.not_mem_nil, false_implies, implies_true, true_and]
    rw [encodeItems, ApplicationValue.encodings, Except.ok.injEq, Except.ok.injEq]
  | cons value rest ih =>
    rw [List.forall_mem_cons] at kinds
    rw [List.map_cons, List.map_cons, encodeItems, bind_eq_ok, ApplicationValue.encodings_cons,
      List.forall_mem_cons]
    constructor
    · rintro ⟨first, here, more⟩
      obtain ⟨later, there, same⟩ := bind_eq_ok.mp more
      obtain ⟨inRange, encoded⟩ := (Scalar.encodeScalar_eq_ok kinds.1).mp here
      obtain ⟨others, encodings⟩ := (ih kinds.2).mp there
      exact ⟨⟨inRange, others⟩, first, later, encoded, encodings, Except.ok.inj same⟩
    · rintro ⟨⟨inRange, others⟩, first, later, encoded, encodings, rfl⟩
      have here := (Scalar.encodeScalar_eq_ok kinds.1).mpr ⟨inRange, encoded⟩
      have there := (ih kinds.2).mpr ⟨others, encodings⟩
      exact ⟨first, here, bind_eq_ok.mpr ⟨later, there, rfl⟩⟩

/-- What is decoded is equal to what was encoded, value by value, unless there is a NaN. -/
theorem pyEq_decoded_iff (kinds : ∀ value ∈ values, value.Streamable)
    (inRange : ∀ value ∈ values, value.InRange)
    : List.Forall₂ (fun value result => Value.pyEq (.scalar value) result) values
        ((values.map Scalar.sent).map fun value => .scalar value.decoded)
      ↔ ∀ value ∈ values, value.Comparable := by
  rw [List.map_map, List.forall₂_map_right_iff, List.forall₂_same]
  exact forall₂_congr fun value member =>
    Scalar.pyEq_decoded_sent (kinds value member) (inRange value member)

/-- The values that come back are those that fit in their octets, are short enough and equal
themselves, if there are not too many of them.
-/
theorem roundTrips_iff [JapaneseCodec] (kinds : ∀ value ∈ values, value.Streamable)
    : RoundTrips values
      ↔ values.length ≤ maxDecodedValues
        ∧ ∀ value ∈ values, value.InRange ∧ value.Sane ∧ value.Comparable := by
  have sane_iff : (∀ value ∈ values.map Scalar.sent, value.tagLength ≤ 1048576)
      ↔ ∀ value ∈ values, value.Sane := by
    rw [List.forall_mem_map]
    exact forall₂_congr fun value member => Scalar.tagLength_sent (kinds value member)
  have decodable_iff : ApplicationValue.Decodable 0 (values.map Scalar.sent)
      ↔ (∀ value ∈ values, value.Sane) ∧ values.length ≤ maxDecodedValues := by
    rw [ApplicationValue.Decodable, sane_iff, List.map_eq_nil_iff, Nat.zero_add, List.length_map]
    refine and_congr_right fun _ => ⟨fun few => ?_, Or.inr⟩
    rcases few with rfl | few
    · exact Nat.zero_le _
    · exact few
  constructor
  · rintro ⟨octets, results, encoded, decoded, _, equal⟩
    obtain ⟨inRange, encodings⟩ := (encodeItems_eq_ok kinds).mp encoded
    obtain ⟨decodable, rfl⟩ := (ApplicationValue.decodeValuesFrom_encodings [] encodings
      (Nat.lt_succ_self _)).mp decoded
    obtain ⟨sane, few⟩ := decodable_iff.mp decodable
    have comparable := (pyEq_decoded_iff kinds inRange).mp equal
    exact ⟨few, fun value member =>
      ⟨inRange value member, sane value member, comparable value member⟩⟩
  · rintro ⟨few, fine⟩
    have inRange : ∀ value ∈ values, value.InRange := fun value member => (fine value member).1
    have sane : ∀ value ∈ values, value.Sane := fun value member => (fine value member).2.1
    have comparable : ∀ value ∈ values, value.Comparable :=
      fun value member => (fine value member).2.2
    obtain ⟨octets, encodings⟩ := ApplicationValue.exists_encodings (sane_iff.mpr sane)
    refine ⟨octets, _, (encodeItems_eq_ok kinds).mpr ⟨inRange, encodings⟩, ?_, ?_,
      (pyEq_decoded_iff kinds inRange).mpr comparable⟩
    · exact (ApplicationValue.decodeValuesFrom_encodings [] encodings (Nat.lt_succ_self _)).mpr
        ⟨decodable_iff.mpr ⟨sane, few⟩, rfl⟩
    · exact ApplicationValue.valuesEnd_encodings [] encodings (sane_iff.mpr sane)
        (Nat.lt_succ_self _)

/-- Up to 10000 values come back as equal ones if and only if no field is out of range, no string
is taken for an attack and none of them is NaN.
-/
theorem valueStream_roundTrips_iff [JapaneseCodec] (values : List Scalar)
    (few : values.length ≤ 10000) (kinds : ∀ value ∈ values, value.Streamable)
    : RoundTrips values ↔ ∀ value ∈ values, value.InRange ∧ value.Sane ∧ value.Comparable :=
  (roundTrips_iff kinds).trans (and_iff_right few)

/-- One value of every type. -/
def oneOfEach : List Scalar :=
  [.none, .bool true, .int 4294967295, .float (Float.ofInt 72), .double (Float.ofInt 72),
    .str "on", .bitString ⟨[0xA0], 4, by decide⟩, .date ⟨2154, 12, 31, 0xFF⟩,
    .time ⟨23, 59, 59, 99⟩, .objectIdentifier ⟨.analogValue, 1⟩]

theorem oneOfEach_roundTrips : ∃ _ : JapaneseCodec, RoundTrips oneOfEach := by
  let codec : JapaneseCodec := ⟨fun _ => none⟩
  have finite : (Float.ofInt 72).isFinite ∧ widen (narrow (Float.ofInt 72)) = Float.ofInt 72 := by
    decide +kernel
  have number : (Float.ofInt 72).isNaN = false := Scalar.number_of_finite finite.1
  refine ⟨codec, (valueStream_roundTrips_iff oneOfEach (by decide) ?_).mpr ?_⟩
  · simp only [oneOfEach, List.forall_mem_cons, Scalar.Streamable, List.not_mem_nil, false_implies,
      implies_true, and_true, true_and]
    exact ⟨by decide, finite, by decide⟩
  · simp only [oneOfEach, List.forall_mem_cons, Scalar.InRange, Scalar.Sane, Scalar.Comparable,
      List.not_mem_nil, false_implies, implies_true, and_true, true_and]
    exact ⟨number, by decide +kernel, by decide, by decide, by decide⟩

theorem utf8ByteSize_replicate (count : Nat)
    : (String.ofList (List.replicate count 'a')).utf8ByteSize = count := by
  have size : (List.replicate count 'a').utf8Encode.size = count := by
    induction count with
    | zero => simp
    | succ count ih =>
      rw [List.replicate_succ, List.utf8Encode_cons, ByteArray.size_append, ih,
        List.utf8Encode_singleton]
      exact Nat.add_comm 1 count
  rw [← String.size_toByteArray, String.toByteArray_ofList, size]

/-- A mebibyte of text, a mebibyte of bits, a date before 1900, an hour that is no octet and NaN
do not come back.
-/
def notReturned : List Scalar :=
  [.str (String.ofList (List.replicate 1048576 'a')),
    .bitString ⟨List.replicate 1048576 0, 0, Nat.zero_le _, fun _ => rfl⟩,
    .date ⟨1899, 12, 31, 0xFF⟩, .time ⟨256, 0, 0, 0⟩, .double (Float.ofBits 0x7FF8000000000000)]

theorem not_valueStream_roundTrips :
    (∀ value ∈ notReturned, value.Streamable)
      ∧ ∀ _ : JapaneseCodec, ∀ value ∈ notReturned, ¬ RoundTrips [value] := by
  have both : ∀ value ∈ notReturned, value.Streamable
      ∧ ¬ (value.InRange ∧ value.Sane ∧ value.Comparable) := ?bad
  · refine ⟨fun value member => (both value member).1, fun _ value member returned => ?_⟩
    obtain ⟨kind, bad⟩ := both value member
    exact bad (((roundTrips_iff (List.forall_mem_singleton.mpr kind)).mp returned).2 value
      (List.mem_singleton_self _))
  have text := utf8ByteSize_replicate 1048576
  have bits : (List.replicate 1048576 (0 : UInt8)).length = 1048576 := List.length_replicate
  have noNumber : (Float.ofBits 0x7FF8000000000000).isNaN = true := by decide +kernel
  simp only [notReturned, List.forall_mem_cons, List.not_mem_nil, false_implies, implies_true,
    and_true]
  refine ⟨⟨True.intro, ?_⟩, ⟨True.intro, ?_⟩, ⟨?_, ?_⟩, ⟨True.intro, ?_⟩, True.intro, ?_⟩
  · rintro ⟨_, sane, _⟩
    rw [Scalar.Sane, text] at sane
    omega
  · rintro ⟨_, sane, _⟩
    rw [Scalar.Sane, bits] at sane
    omega
  · exact (by decide : 1899 < 2155)
  · rintro ⟨inRange, _⟩
    cases inRange
  · rintro ⟨inRange, _⟩
    cases inRange
  · rintro ⟨_, _, comparable⟩
    rw [Scalar.Comparable, noNumber] at comparable
    cases comparable

end BacPy
