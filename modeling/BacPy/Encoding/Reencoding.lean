import BacPy.Encoding.ApplicationValues
import BacPy.Encoding.Encodable
import BacPy.Objects.Base

/-! Which values come out of a property as they went in: the decoder forgets the tag, and the
encoder chooses one by the Python type, after the property may have coerced the value.
-/

namespace BacPy

open Library

-- Tags

/-- The first octet has the tag number of an application tag. -/
def TaggedWith (number : Nat) (octets : Bytes) : Prop :=
  ∃ first rest, octets = first :: rest ∧ ((first >>> 4) &&& 0x0F).toNat = number

variable {number another : Nat} {octets : Bytes}

theorem TaggedWith.unique (tagged : TaggedWith number octets) (again : TaggedWith another octets)
    : number = another := by
  obtain ⟨first, rest, rfl, rfl⟩ := tagged
  obtain ⟨_, _, same, rfl⟩ := again
  rw [(List.cons.inj same).1]

theorem TaggedWith.append (tagged : TaggedWith number octets) (after : Bytes)
    : TaggedWith number (octets ++ after) := by
  obtain ⟨first, rest, rfl, field⟩ := tagged
  exact ⟨first, rest ++ after, rfl, field⟩

theorem taggedWith_encodeTag (small : number ≤ 14) {length}
    (encoded : encodeTag number .application length = .ok octets)
    : TaggedWith number octets := by
  obtain ⟨lvt, extended, rfl, short, _⟩ := encodeTag_application small encoded
  exact ⟨_, _, rfl, (initialOctet_fields small short).1⟩

theorem taggedWith_encodeApplicationTagged (small : number ≤ 14) {data}
    (encoded : encodeApplicationTagged number data = .ok octets)
    : TaggedWith number octets := by
  obtain ⟨header, tagged, same⟩ := bind_eq_ok.mp encoded
  rw [← Except.ok.inj same]
  exact (taggedWith_encodeTag small tagged).append data

theorem taggedWith_encodeApplicationReal {value}
    (encoded : encodeApplicationReal value = .ok octets)
    : TaggedWith 4 octets := by
  obtain ⟨data, _, tagged⟩ := bind_eq_ok.mp encoded
  cases outcome : encodeApplicationTagged 4 data with
  | error raised =>
    rw [outcome] at tagged
    cases tagged
  | ok encoded =>
    rw [outcome] at tagged
    rw [← Except.ok.inj tagged]
    exact taggedWith_encodeApplicationTagged (by decide) outcome

theorem raising_eq_ok {Result : Type} {outcome : Except PyException Result} {result : Result}
    : raising outcome = .ok result ↔ outcome = .ok result := by
  cases outcome <;> simp

/-- An integer gets the tag of an Unsigned, or of a Real. -/
theorem taggedWith_int {value : Int} {intAsReal : Bool}
    (encoded : encodeScalar (.int value) intAsReal = .ok octets)
    : TaggedWith (if intAsReal then 4 else 2) octets := by
  unfold encodeScalar at encoded
  cases intAsReal with
  | true =>
    obtain ⟨converted, _, encoded⟩ := bind_eq_ok.mp encoded
    exact taggedWith_encodeApplicationReal encoded
  | false =>
    obtain ⟨data, _, encoded⟩ := bind_eq_ok.mp (raising_eq_ok.mp encoded)
    exact taggedWith_encodeApplicationTagged (by decide) encoded

theorem taggedWith_enum {type : EnumType} {value : Nat} {intAsReal : Bool}
    (encoded : encodeScalar (.enum type value) intAsReal = .ok octets)
    : TaggedWith 9 octets := by
  obtain ⟨data, _, encoded⟩ := bind_eq_ok.mp (raising_eq_ok.mp encoded)
  exact taggedWith_encodeApplicationTagged (by decide) encoded

namespace ApplicationValue

variable {value : ApplicationValue}

theorem taggedWith_encoding (encoded : value.encoding = .ok octets)
    : TaggedWith value.tagNumber octets := by
  obtain ⟨header, tagged, same⟩ := bind_eq_ok.mp encoded
  rw [← Except.ok.inj same]
  have small : value.tagNumber ≤ 14 := by
    have := value.tagNumber_le
    omega
  exact (taggedWith_encodeTag small tagged).append _

end ApplicationValue

-- Contents

theorem encodeUnsigned_eq {value} (fits : value ≤ 0xFFFFFFFF)
    : encodeUnsigned value = .ok (toBytes value (unsignedSize value)) := by
  unfold encodeUnsigned unsignedSize
  split
  · next small =>
      have bits : Nat.log2 value < 8 := by
        by_cases zero : value = 0
        · simp [zero]
        · rw [Nat.log2_lt zero]
          omega
      have oneOctet : Nat.log2 value / 8 = 0 := by omega
      have itself : value % 256 = value := Nat.mod_eq_of_lt (by omega)
      rw [oneOctet, toBytes, toBytes, List.nil_append, itself]
  · have size : (Nat.log2 value + 1 + 7) / 8 = Nat.log2 value / 8 + 1 := by omega
    rw [if_neg (by omega), size]

theorem encodeUnsigned_eq_ok {value data}
    : encodeUnsigned value = .ok data
      ↔ value ≤ 0xFFFFFFFF ∧ data = toBytes value (unsignedSize value) := by
  constructor
  · intro encoded
    have fits := encodeUnsigned_ok_iff.mp ⟨data, encoded⟩
    rw [encodeUnsigned_eq fits] at encoded
    exact ⟨fits, (Except.ok.inj encoded).symm⟩
  · rintro ⟨fits, rfl⟩
    exact encodeUnsigned_eq fits

theorem encodeUnsignedInt_natCast (value : Nat)
    : encodeUnsignedInt (value : Int) = encodeUnsigned value := by
  rw [encodeUnsignedInt, if_neg (by omega), Int.toNat_natCast]

open Float.Model FloatFormats in
/-- A Real whose float is finite is itself finite. -/
theorem isFinite_of_widen {value : Float32} (finite : (widen value).isFinite)
    : value.isFinite := by
  obtain ⟨⟨bits, valid⟩⟩ := value
  rw [widen_eq] at finite
  change (UnpackedFloat.unpack Format.binary64 (UnpackedFloat.pack Format.binary64
    (roundFinite Format.binary64 (UnpackedFloat.unpack Format.binary32 bits.toBitVec)))).isFinite
      = true at finite
  change (UnpackedFloat.unpack Format.binary32 bits.toBitVec).isFinite = true
  obtain ⟨_, _, _, _, unpacked⟩ | special :=
    finite_or_special (UnpackedFloat.unpack Format.binary32 bits.toBitVec)
  · rw [unpacked]
    rfl
  · rwa [roundFinite_special special, unpack_pack_special special] at finite

theorem encodeReal_widen (value : Float32)
    : encodeReal (widen value) = .ok (toBytes value.toBits.toNat 4) := by
  unfold encodeReal
  rw [narrow_widen, if_neg]
  intro large
  rw [Bool.and_eq_true, Bool.not_eq_true'] at large
  rw [isFinite_of_widen large.1] at large
  cases large.2

theorem encodeDate_content (year month day dayOfWeek : UInt8)
    : encodeDate {
        year := if year = 0xFF then 0xFF else year.toNat + 1900
        month := month.toNat
        day := day.toNat
        dayOfWeek := dayOfWeek.toNat
      } = .ok [year, month, day, dayOfWeek] := by
  have below := year.toNat_lt
  have again : ∀ field : UInt8, octet field.toNat = .ok field := by
    intro field
    rw [octet_ok field.toNat_lt, UInt8.ofNat_toNat]
  unfold encodeDate
  by_cases unspecified : year = 0xFF
  · subst unspecified
    simp only [if_true, ne_eq, not_true_eq_false, false_and, if_false, again]
    rfl
  · have inRange : ¬ (year.toNat + 1900 ≠ 0xFF
        ∧ ¬ (1900 ≤ year.toNat + 1900 ∧ year.toNat + 1900 ≤ 2155)) := by omega
    have notUnspecified : ¬ year.toNat + 1900 = 0xFF := by omega
    simp only [if_neg unspecified, if_neg inRange, if_neg notUnspecified, Nat.add_sub_cancel, again]
    rfl

theorem encodeTime_content (hour minute second hundredth : UInt8)
    : encodeTime {
        hour := hour.toNat
        minute := minute.toNat
        second := second.toNat
        hundredth := hundredth.toNat
      } = .ok [hour, minute, second, hundredth] := by
  have again : ∀ field : UInt8, octet field.toNat = .ok field := by
    intro field
    rw [octet_ok field.toNat_lt, UInt8.ofNat_toNat]
  simp only [encodeTime, again]
  rfl

-- Single values

/-- The declared type makes a member of its enumeration of a number. -/
def Datatype.takes (datatype : Datatype) (number : Int) : Bool :=
  match datatype with
  | .enum type => type.accepts number
  | _ => false

/-- A value comes out of a property of this type as it went in: it is of the type that the encoder
chooses for its Python value, after the property has coerced it.
-/
def Datatype.keeps (datatype : Datatype) (intAsReal : Bool) : ApplicationValue → Bool
  | .unsigned value => !datatype.takes value && !intAsReal && value ≤ 0xFFFFFFFF
  | .enumerated value => datatype.takes value && value ≤ 0xFFFFFFFF
  | .signed _ | .octetString _ => false
  | .real _ => datatype ≠ .double
  | .double _ => datatype = .double
  | _ => true

/-- The values of a declared type; a list is declared without the type of its items. -/
def Datatype.hasValue : Datatype → List ApplicationValue → Bool
  | .enum type, [.enumerated value] => type.accepts value
  | .int, [.unsigned _] | .int, [.signed _] | .bool, [.boolean _] | .float, [.real _] => true
  | .double, [.double _] | .str, [.characterString _] | .bytes, [.octetString _] => true
  | .bitString, [.bitString _] | .statusFlags, [.bitString _] | .date, [.date ..] => true
  | .time, [.time ..] | .objectIdentifier, [.objectIdentifier _] => true
  | .list, _ | .other _, _ => true
  | _, _ => false

/-- `_coerce_value` of a value that has been decoded. -/
def Datatype.coerce (datatype : Datatype) (value : Scalar) : Scalar :=
  match datatype, value with
  | .enum type, .int number => if type.accepts number then .enum type number.toNat else value
  | .double, .float value => .double value
  | _, value => value

theorem coerceValue_scalar (definition : PropertyDefinition) (value : Scalar)
    : BACnetObject.coerceValue definition (.scalar value)
      = .scalar (definition.datatype.coerce value) := by
  unfold BACnetObject.coerceValue Datatype.coerce
  cases definition.datatype with
  | enum type =>
    cases value with
    | int number => exact (apply_ite Value.scalar _ _ _).symm
    | _ => rfl
  | double => cases value <;> rfl
  | _ => rfl

theorem coerceValue_list (definition : PropertyDefinition) (items : List Value)
    : BACnetObject.coerceValue definition (.list items) = .list items := by
  unfold BACnetObject.coerceValue
  cases definition.datatype <;> rfl

variable {datatype : Datatype} {intAsReal : Bool}

theorem coerce_int (datatype : Datatype) (value : Int)
    : (datatype.takes value = true
        ∧ ∃ type, datatype.coerce (.int value) = .enum type value.toNat)
      ∨ (datatype.takes value = false ∧ datatype.coerce (.int value) = .int value) := by
  unfold Datatype.takes Datatype.coerce
  cases datatype with
  | enum type =>
    dsimp only
    cases type.accepts value with
    | true => exact Or.inl ⟨rfl, type, rfl⟩
    | false => exact Or.inr ⟨rfl, rfl⟩
  | _ => exact Or.inr ⟨rfl, rfl⟩

theorem coerce_float (value : Float)
    : datatype.coerce (.float value) = if datatype = .double then .double value else .float value := by
  cases datatype <;> rfl

namespace ApplicationValue

/-- An integer is encoded as it was if it was an Unsigned, and neither the enumeration nor the
object makes anything else of it.
-/
theorem unsigned_kept (value : Nat) (encoded : (unsigned value).encoding = .ok octets)
    : encodeScalar (datatype.coerce (.int value)) intAsReal = .ok octets
      ↔ datatype.keeps intAsReal (unsigned value) = true := by
  have tagged : TaggedWith 2 octets := taggedWith_encoding encoded
  rw [Datatype.keeps]
  rcases coerce_int datatype (value : Int) with ⟨taken, type, same⟩ | ⟨free, same⟩
  · rw [same, taken]
    refine ⟨fun again => ?_, fun kept => by simp at kept⟩
    have := tagged.unique (taggedWith_enum again)
    omega
  · rw [same, free]
    cases intAsReal with
    | true =>
      refine ⟨fun again => ?_, fun kept => by simp at kept⟩
      have := tagged.unique (taggedWith_int again)
      simp at this
    | false =>
      have step : encodeScalar (.int value) false
          = raising (encodeUnsigned value >>= encodeApplicationTagged 2) := by
        rw [← encodeUnsignedInt_natCast]
        rfl
      rw [step, raising_eq_ok]
      simp only [Bool.not_false, Bool.true_and, decide_eq_true_eq]
      constructor
      · intro again
        obtain ⟨data, minimal, _⟩ := bind_eq_ok.mp again
        exact (encodeUnsigned_eq_ok.mp minimal).1
      · intro fits
        rw [encodeUnsigned_eq fits]
        exact encoded

theorem enumerated_kept (value : Nat) (encoded : (enumerated value).encoding = .ok octets)
    : encodeScalar (datatype.coerce (.int value)) intAsReal = .ok octets
      ↔ datatype.keeps intAsReal (enumerated value) = true := by
  have tagged : TaggedWith 9 octets := taggedWith_encoding encoded
  rw [Datatype.keeps]
  rcases coerce_int datatype (value : Int) with ⟨taken, type, same⟩ | ⟨free, same⟩
  · have step : encodeScalar (.enum type (value : Int).toNat) intAsReal
        = raising (encodeUnsigned value >>= encodeApplicationTagged 9) := rfl
    rw [same, taken, step, raising_eq_ok]
    simp only [Bool.true_and, decide_eq_true_eq]
    constructor
    · intro again
      obtain ⟨data, minimal, _⟩ := bind_eq_ok.mp again
      exact (encodeUnsigned_eq_ok.mp minimal).1
    · intro fits
      rw [encodeUnsigned_eq fits]
      exact encoded
  · rw [same, free]
    refine ⟨fun again => ?_, fun kept => by simp at kept⟩
    have := tagged.unique (taggedWith_int again)
    split at this <;> omega

/-- A signed number never has the tag of its encoding again. -/
theorem signed_lost (value : Int) (encoded : (signed value).encoding = .ok octets)
    : encodeScalar (datatype.coerce (.int value)) intAsReal ≠ .ok octets := by
  intro again
  have tagged : TaggedWith 3 octets := taggedWith_encoding encoded
  rcases coerce_int datatype value with ⟨_, type, same⟩ | ⟨_, same⟩
  · rw [same] at again
    have := tagged.unique (taggedWith_enum again)
    omega
  · rw [same] at again
    have := tagged.unique (taggedWith_int again)
    split at this <;> omega

theorem real_kept (value : Float32) (encoded : (real value).encoding = .ok octets)
    : encodeScalar (datatype.coerce (.float (widen value))) intAsReal = .ok octets
      ↔ datatype.keeps intAsReal (real value) = true := by
  have tagged : TaggedWith 4 octets := taggedWith_encoding encoded
  rw [Datatype.keeps]
  rw [coerce_float, decide_eq_true_eq]
  by_cases double : datatype = .double
  · rw [if_pos double]
    refine ⟨fun again => ?_, fun kept => absurd double kept⟩
    have := tagged.unique
      (taggedWith_encodeApplicationTagged (by decide) (raising_eq_ok.mp again))
    omega
  · rw [if_neg double]
    refine ⟨fun _ => double, fun _ => ?_⟩
    have step : encodeScalar (.float (widen value)) intAsReal
        = encodeApplicationReal (widen value) := rfl
    rw [step, encodeApplicationReal, encodeReal_widen]
    exact raising_eq_ok.mpr encoded

theorem double_kept (value : Float) (encoded : (double value).encoding = .ok octets)
    : encodeScalar (datatype.coerce (.float value)) intAsReal = .ok octets
      ↔ datatype.keeps intAsReal (double value) = true := by
  have tagged : TaggedWith 5 octets := taggedWith_encoding encoded
  rw [Datatype.keeps]
  rw [coerce_float, decide_eq_true_eq]
  by_cases double : datatype = .double
  · rw [if_pos double]
    exact ⟨fun _ => double, fun _ => raising_eq_ok.mpr encoded⟩
  · rw [if_neg double]
    refine ⟨fun again => ?_, fun kept => absurd kept double⟩
    have := tagged.unique (taggedWith_encodeApplicationReal again)
    omega

/-- An octet string comes out without its tag. -/
theorem octetString_lost (value : Bytes) (encoded : (octetString value).encoding = .ok octets)
    : octets.length > value.length := by
  obtain ⟨header, tagged, same⟩ := bind_eq_ok.mp encoded
  obtain ⟨first, rest, rfl, _⟩ := taggedWith_encodeTag (by simp [tagNumber]) tagged
  have whole : first :: rest ++ value = octets := Except.ok.inj same
  rw [← whole, List.length_append, List.length_cons]
  omega

/-- A single value that a property has coerced is encoded as it was if the declared type keeps
it.
-/
theorem kept_iff (datatype : Datatype) (intAsReal : Bool) {value}
    (encoded : value.encoding = .ok octets)
    : encodeScalar (datatype.coerce value.decoded) intAsReal = .ok octets
      ↔ datatype.keeps intAsReal value = true := by
  have uncoerced (same : datatype.coerce value.decoded = value.decoded)
      (again : encodeScalar value.decoded intAsReal = raising value.encoding)
      (keeps : datatype.keeps intAsReal value = true)
      : encodeScalar (datatype.coerce value.decoded) intAsReal = .ok octets
        ↔ datatype.keeps intAsReal value = true := by
    rw [same, again, encoded]
    exact ⟨fun _ => keeps, fun _ => rfl⟩
  cases value with
  | unsigned value => exact unsigned_kept value encoded
  | enumerated value => exact enumerated_kept value encoded
  | signed value =>
    exact ⟨fun again => absurd again (signed_lost value encoded), fun kept => by cases kept⟩
  | real value => exact real_kept value encoded
  | double value => exact double_kept value encoded
  | octetString value =>
    refine ⟨fun again => ?_, fun kept => by cases kept⟩
    have longer := octetString_lost value encoded
    have plain : datatype.coerce (.bytes value) = .bytes value := by cases datatype <;> rfl
    rw [decoded, plain] at again
    have same : value = octets := Except.ok.inj again
    rw [same] at longer
    omega
  | null => exact uncoerced (by cases datatype <;> rfl) rfl rfl
  | boolean value =>
    exact uncoerced (by cases datatype <;> rfl) (by cases value <;> rfl) rfl
  | characterString value | bitString value | objectIdentifier value =>
    exact uncoerced (by cases datatype <;> rfl) rfl rfl
  | date year month day dayOfWeek =>
    refine uncoerced (by cases datatype <;> rfl) ?_ rfl
    rw [decoded, encodeScalar, encodeDate_content]
    rfl
  | time hour minute second hundredth =>
    refine uncoerced (by cases datatype <;> rfl) ?_ rfl
    rw [decoded, encodeScalar, encodeTime_content]
    rfl

-- Lists

/-- The value comes out of a list as it went in, where nothing is coerced. -/
abbrev survives (intAsReal : Bool) (value : ApplicationValue) : Bool :=
  Datatype.list.keeps intAsReal value

theorem encoding_survives_iff {value : ApplicationValue} (encoded : value.encoding = .ok octets)
    : encodeScalar value.decoded intAsReal = .ok octets ↔ value.survives intAsReal = true :=
  kept_iff .list intAsReal encoded

def items (values : List ApplicationValue) : List Value :=
  values.map fun value => .scalar value.decoded

theorem encodeItems_cons {value values}
    : encodeItems (items (value :: values)) intAsReal = .ok octets
      ↔ ∃ first later, encodeScalar value.decoded intAsReal = .ok first
        ∧ encodeItems (items values) intAsReal = .ok later ∧ first ++ later = octets := by
  rw [items, List.map_cons, encodeItems, bind_eq_ok]
  constructor
  · rintro ⟨first, here, rest⟩
    obtain ⟨later, there, same⟩ := bind_eq_ok.mp rest
    exact ⟨first, later, here, there, Except.ok.inj same⟩
  · rintro ⟨first, later, here, there, rfl⟩
    exact ⟨first, here, bind_eq_ok.mpr ⟨later, there, rfl⟩⟩

theorem encodings_cons {value values}
    : encodings (value :: values) = .ok octets
      ↔ ∃ first later, value.encoding = .ok first ∧ encodings values = .ok later
        ∧ first ++ later = octets := by
  rw [encodings, bind_eq_ok]
  constructor
  · rintro ⟨first, here, rest⟩
    obtain ⟨later, there, same⟩ := bind_eq_ok.mp rest
    exact ⟨first, later, here, there, Except.ok.inj same⟩
  · rintro ⟨first, later, here, there, rfl⟩
    exact ⟨first, here, bind_eq_ok.mpr ⟨later, there, rfl⟩⟩

/-- A list whose values all survive comes out as it went in, by induction on the values. -/
theorem items_kept {values : List ApplicationValue} (encoded : encodings values = .ok octets)
    (kept : ∀ value ∈ values, value.survives intAsReal = true)
    : encodeItems (items values) intAsReal = .ok octets := by
  induction values generalizing octets with
  | nil => exact raising_eq_ok.mpr encoded
  | cons value rest ih =>
    obtain ⟨first, later, here, there, same⟩ := encodings_cons.mp encoded
    rw [List.forall_mem_cons] at kept
    exact encodeItems_cons.mpr
      ⟨first, later, (encoding_survives_iff here).mpr kept.1, ih there kept.2, same⟩

theorem tag_changes {value : ApplicationValue} (lost : value.survives intAsReal = false)
    (tagged : ∀ data, value ≠ octetString data)
    (encoded : encodeScalar value.decoded intAsReal = .ok octets)
    : ∃ number, TaggedWith number octets ∧ number ≠ value.tagNumber := by
  cases value with
  | unsigned value =>
    refine ⟨_, taggedWith_int encoded, ?_⟩
    cases intAsReal with
    | true => simp [tagNumber]
    | false =>
      obtain ⟨data, minimal, _⟩ := bind_eq_ok.mp (raising_eq_ok.mp encoded)
      rw [encodeUnsignedInt_natCast] at minimal
      have fits := (encodeUnsigned_eq_ok.mp minimal).1
      simp [survives, Datatype.keeps, Datatype.takes] at lost
      omega
  | signed value | enumerated value =>
    refine ⟨_, taggedWith_int encoded, ?_⟩
    cases intAsReal <;> simp [tagNumber]
  | double value => exact ⟨_, taggedWith_encodeApplicationReal encoded, by simp [tagNumber]⟩
  | octetString value => exact absurd rfl (tagged value)
  | _ => cases lost

/-- A list without octet strings shows its first lost value by a tag, by induction on the
values.
-/
theorem survive_of_items {values : List ApplicationValue} (encoded : encodings values = .ok octets)
    (again : encodeItems (items values) intAsReal = .ok octets)
    (tagged : ∀ data, octetString data ∉ values)
    : ∀ value ∈ values, value.survives intAsReal = true := by
  induction values generalizing octets with
  | nil => simp
  | cons value rest ih =>
    obtain ⟨first, later, here, there, rfl⟩ := encodings_cons.mp encoded
    obtain ⟨another, others, hereAgain, thereAgain, same⟩ := encodeItems_cons.mp again
    have kept : value.survives intAsReal = true := by
      cases survived : value.survives intAsReal with
      | true => rfl
      | false =>
        obtain ⟨number, retagged, different⟩ := tag_changes survived
          (fun data is => tagged data (is ▸ List.mem_cons_self)) hereAgain
        have one := same ▸ retagged.append others
        exact absurd (one.unique ((taggedWith_encoding here).append later)) different
    have whole : another = first :=
      Except.ok.inj (hereAgain.symm.trans ((encoding_survives_iff here).mpr kept))
    rw [whole] at same
    rw [← List.append_cancel_left same] at there
    exact List.forall_mem_cons.mpr ⟨kept, ih there thereAgain
      fun data member => tagged data (List.mem_cons_of_mem value member)⟩

theorem length_encodeApplicationTagged {number} (small : number ≤ 14) {data}
    (encoded : encodeApplicationTagged number data = .ok octets)
    : data.length < octets.length ∧ (data.length ≤ 4 → octets.length = data.length + 1) := by
  obtain ⟨header, tagged, same⟩ := bind_eq_ok.mp encoded
  rw [← Except.ok.inj same, List.length_append]
  constructor
  · obtain ⟨first, rest, rfl, _⟩ := taggedWith_encodeTag small tagged
    rw [List.length_cons]
    omega
  · intro short
    have inRange : ¬ 254 < number := by omega
    rw [encodeTag, if_neg inRange] at tagged
    simp only [if_pos small, if_pos short] at tagged
    rw [← Except.ok.inj tagged, List.length_singleton]
    omega

theorem length_encoding {value : ApplicationValue} (encoded : value.encoding = .ok octets)
    : value.content.length < octets.length := by
  obtain ⟨header, tagged, same⟩ := bind_eq_ok.mp encoded
  have small : value.tagNumber ≤ 14 := by
    have := value.tagNumber_le
    omega
  obtain ⟨first, rest, rfl, _⟩ := taggedWith_encodeTag small tagged
  rw [← Except.ok.inj same, List.length_append, List.length_cons]
  omega

theorem length_unsigned_again {value : Int} (encoded : encodeScalar (.int value) false = .ok octets)
    : 0 ≤ value ∧ octets.length = unsignedSize value.toNat + 1 := by
  obtain ⟨data, minimal, tagged⟩ := bind_eq_ok.mp (raising_eq_ok.mp encoded)
  rw [encodeUnsignedInt] at minimal
  split at minimal
  · cases minimal
  · next natural =>
      have short := length_encodeUnsigned minimal
      obtain ⟨_, rfl⟩ := encodeUnsigned_eq_ok.mp minimal
      rw [(length_encodeApplicationTagged (by decide) tagged).2 short, length_toBytes]
      exact ⟨by omega, rfl⟩

/-- Without Reals for integers, nothing is longer when it comes out, and an octet string is
shorter.
-/
theorem length_again {value : ApplicationValue} {again : Bytes}
    (encoded : value.encoding = .ok octets)
    (encodedAgain : encodeScalar value.decoded false = .ok again)
    : again.length ≤ octets.length
      ∧ (∀ data, value = octetString data → again.length < octets.length) := by
  have longer := length_encoding encoded
  cases survived : value.survives false with
  | true =>
    cases ((encoding_survives_iff encoded).mpr survived).symm.trans encodedAgain
    refine ⟨le_refl _, ?_⟩
    rintro data rfl
    cases survived
  | false =>
    cases value with
    | unsigned value | enumerated value =>
      obtain ⟨_, length⟩ := length_unsigned_again encodedAgain
      rw [Int.toNat_natCast] at length
      rw [content, length_toBytes] at longer
      exact ⟨by omega, by simp⟩
    | signed value =>
      obtain ⟨natural, length⟩ := length_unsigned_again encodedAgain
      have smaller : unsignedSize value.toNat ≤ minSignedBytes value := by
        unfold unsignedSize minSignedBytes bitLength
        split
        · next zero => simp [zero]
        · rw [if_pos (by omega), if_neg (by omega)]
          omega
      rw [content, length_toBytes] at longer
      exact ⟨by omega, by simp⟩
    | double value =>
      obtain ⟨data, real, tagged⟩ := bind_eq_ok.mp encodedAgain
      have short : data.length = 4 := by
        unfold encodeReal at real
        split at real
        · cases real
        · rw [← Except.ok.inj real, length_toBytes]
      have length := (length_encodeApplicationTagged (by decide) (raising_eq_ok.mp tagged)).2
        (by omega)
      rw [content, length_toBytes] at longer
      exact ⟨by omega, by simp⟩
    | octetString value =>
      cases encodedAgain
      exact ⟨longer.le, fun _ _ => longer⟩
    | _ => cases survived

/-- So a list with octet strings is shorter, by induction on the values. -/
theorem length_items {values again} (encoded : encodings values = .ok octets)
    (encodedAgain : encodeItems (items values) false = .ok again)
    : again.length ≤ octets.length
      ∧ (∀ data, octetString data ∈ values → again.length < octets.length) := by
  induction values generalizing octets again with
  | nil =>
    cases encoded
    cases encodedAgain
    simp
  | cons value rest ih =>
    obtain ⟨first, later, here, there, rfl⟩ := encodings_cons.mp encoded
    obtain ⟨another, others, hereAgain, thereAgain, rfl⟩ := encodeItems_cons.mp encodedAgain
    obtain ⟨shorter, octetShorter⟩ := length_again here hereAgain
    obtain ⟨restShorter, restOctetShorter⟩ := ih there thereAgain
    rw [List.length_append, List.length_append]
    refine ⟨by omega, fun data member => ?_⟩
    rcases List.mem_cons.mp member with is | inRest
    · have := octetShorter data is.symm
      omega
    · have := restOctetShorter data inRest
      omega

/-- A list comes out as it went in exactly if all of its values survive. Where integers become
Reals, this is left open for lists that have octet strings.
-/
theorem items_kept_iff {values} (encoded : encodings values = .ok octets)
    (comparable : intAsReal = true → ∀ data, octetString data ∉ values)
    : encodeItems (items values) intAsReal = .ok octets
      ↔ ∀ value ∈ values, value.survives intAsReal = true := by
  refine ⟨fun again => survive_of_items encoded again ?_, items_kept encoded⟩
  cases intAsReal with
  | true => exact comparable rfl
  | false =>
    intro data member
    have := (length_items encoded again).2 data member
    omega

end ApplicationValue

end BacPy
