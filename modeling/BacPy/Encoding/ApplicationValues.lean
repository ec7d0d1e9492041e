import BacPy.Encoding.Values
import BacPy.Library.FloatFormats
import Mathlib.Tactic.Zify

/-! The application-tagged values of Clause 20.2 and their encodings in the minimum number of
octets, and that the decoder gets every value out of its encoding.
-/

namespace BacPy

open Library

/-- A value of one of the primitive types, each of which has its own application tag. -/
inductive ApplicationValue where
  | null
  | boolean (value : Bool)
  | unsigned (value : Nat)
  | signed (value : Int)
  | real (value : Float32)
  | double (value : Float)
  | octetString (value : Bytes)
  | characterString (value : String)
  | bitString (value : BitString)
  | enumerated (value : Nat)
  | date (year month day dayOfWeek : UInt8)
  | time (hour minute second hundredth : UInt8)
  | objectIdentifier (value : ObjectIdentifier)

/-- The minimum number of octets of a natural number. -/
def unsignedSize (value : Nat) : Nat := Nat.log2 value / 8 + 1

namespace ApplicationValue

def tagNumber : ApplicationValue → Nat
  | null => 0
  | boolean _ => 1
  | unsigned _ => 2
  | signed _ => 3
  | real _ => 4
  | double _ => 5
  | octetString _ => 6
  | characterString _ => 7
  | bitString _ => 8
  | enumerated _ => 9
  | date .. => 10
  | time .. => 11
  | objectIdentifier _ => 12

/-- The octets behind the tag. A Boolean has none, its value is in the tag. -/
def content : ApplicationValue → Bytes
  | null | boolean _ => []
  | unsigned value | enumerated value => toBytes value (unsignedSize value)
  | signed value => toBytes (value % 256 ^ minSignedBytes value).toNat (minSignedBytes value)
  | real value => toBytes value.toBits.toNat 4
  | double value => toBytes value.toBits.toNat 8
  | octetString value => value
  | characterString value => encodeCharacterString value
  | bitString value => encodeBitString value
  | date year month day dayOfWeek => [year, month, day, dayOfWeek]
  | time hour minute second hundredth => [hour, minute, second, hundredth]
  | objectIdentifier value => value.encode

def tagLength : ApplicationValue → Nat
  | boolean value => value.toNat
  | value => value.content.length

/-- The canonical encoding, for a content whose length fits in a tag. -/
def encoding (value : ApplicationValue) : Except PyException Bytes := do
  let header ← encodeTag value.tagNumber .application value.tagLength
  .ok (header ++ value.content)

def encodings : List ApplicationValue → Except PyException Bytes
  | [] => .ok []
  | value :: rest => do
      let first ← value.encoding
      let later ← encodings rest
      .ok (first ++ later)

/-- The Python value that a value is decoded to, whatever the property is declared as. -/
def decoded : ApplicationValue → Scalar
  | null => .none
  | boolean value => .bool value
  | unsigned value | enumerated value => .int value
  | signed value => .int value
  | real value => .float (widen value)
  | double value => .float value
  | octetString value => .bytes value
  | characterString value => .str value
  | bitString value => .bitString value
  | date year month day dayOfWeek => .date {
      year := if year = 0xFF then 0xFF else year.toNat + 1900
      month := month.toNat
      day := day.toNat
      dayOfWeek := dayOfWeek.toNat
    }
  | time hour minute second hundredth => .time {
      hour := hour.toNat
      minute := minute.toNat
      second := second.toNat
      hundredth := hundredth.toNat
    }
  | objectIdentifier value => .objectIdentifier value

theorem tagNumber_le (value : ApplicationValue) : value.tagNumber ≤ 12 := by
  cases value <;> simp [tagNumber]

end ApplicationValue

-- Integers

theorem lt_unsignedSize (value : Nat) : value < 256 ^ unsignedSize value := by
  by_cases zero : value = 0
  · subst zero
    decide
  · have bits : value < 2 ^ (Nat.log2 value + 1) := Nat.lt_log2_self
    calc
      value < 2 ^ (Nat.log2 value + 1) := bits
      _ ≤ 2 ^ (8 * unsignedSize value) := Nat.pow_le_pow_right (by decide) (by
          unfold unsignedSize
          omega)
      _ = 256 ^ unsignedSize value := Nat.pow_mul 2 8 _

/-- A signed number has room for its sign bit. -/
theorem minSignedBytes_fits (value : Int)
    : -(256 ^ minSignedBytes value : Int) ≤ 2 * value
      ∧ 2 * value < (256 ^ minSignedBytes value : Int) := by
  have room : ∀ number : Nat, 0 < number
      → 2 * number + 2 ≤ 256 ^ ((bitLength number + 8) / 8) := by
    intro number positive
    have bits : number < 2 ^ bitLength number := by
      rw [bitLength, if_neg (by omega)]
      exact Nat.lt_log2_self
    calc
      2 * number + 2 ≤ 2 * 2 ^ bitLength number := by omega
      _ = 2 ^ (bitLength number + 1) := by rw [Nat.pow_succ, Nat.mul_comm]
      _ ≤ 2 ^ (8 * ((bitLength number + 8) / 8)) := Nat.pow_le_pow_right (by decide) (by omega)
      _ = 256 ^ ((bitLength number + 8) / 8) := Nat.pow_mul 2 8 _
  unfold minSignedBytes
  split
  · next zero => subst zero; decide
  · split
    · next positive =>
        have fits : 2 * (value.toNat : Int) + 2 ≤ 256 ^ ((bitLength value.toNat + 8) / 8) := by
          exact_mod_cast room value.toNat (by omega)
        omega
    · next notPositive =>
        by_cases least : value = -1
        · subst least
          decide
        · obtain ⟨number, same⟩ := Int.eq_ofNat_of_zero_le (a := -value - 1) (by omega)
          have fits : 2 * (number : Int) + 2 ≤ 256 ^ ((bitLength number + 8) / 8) := by
            exact_mod_cast room number (by omega)
          rw [same, Int.toNat_natCast]
          omega

/-- Two's complement loses nothing. -/
theorem decodeSigned_content (value : Int)
    : decodeSigned (toBytes (value % 256 ^ minSignedBytes value).toNat (minSignedBytes value))
      = value := by
  obtain ⟨lower, upper⟩ := minSignedBytes_fits value
  have positive : (0 : Int) < 256 ^ minSignedBytes value := Int.pow_pos (by decide)
  have residue : 0 ≤ value % 256 ^ minSignedBytes value := Int.emod_nonneg _ (by omega)
  have below : value % 256 ^ minSignedBytes value < 256 ^ minSignedBytes value :=
    Int.emod_lt_of_pos _ positive
  have fits : (value % 256 ^ minSignedBytes value).toNat < 256 ^ minSignedBytes value := by
    zify
    rwa [Int.toNat_of_nonneg residue]
  unfold decodeSigned
  rw [fromBytes_toBytes fits, length_toBytes]
  dsimp only
  have same : ((value % 256 ^ minSignedBytes value).toNat : Int)
      = value % 256 ^ minSignedBytes value := Int.toNat_of_nonneg residue
  by_cases negative : value < 0
  · have wrapped : value % 256 ^ minSignedBytes value = value + 256 ^ minSignedBytes value := by
      rw [← Int.add_emod_right, Int.emod_eq_of_lt (by omega) (by omega)]
    rw [if_pos (by zify; omega), same, wrapped]
    omega
  · have kept : value % 256 ^ minSignedBytes value = value :=
      Int.emod_eq_of_lt (by omega) (by omega)
    rw [if_neg (by zify; omega), same, kept]

-- Floating point

open Float.Model FloatFormats

theorem biased32 : 0 < Format.binary32.exponentBias := by decide

theorem biased64 : 0 < Format.binary64.exponentBias := by decide

theorem wider64 : Wider Format.binary64 Format.binary32 :=
  ⟨by decide, by decide, by decide, by decide⟩

theorem model32_ext {first second : Float32.Model} (same : first.toBits = second.toBits)
    : first = second := by
  cases first
  cases same
  rfl

theorem model64_ext {first second : Float.Model} (same : first.toBits = second.toBits)
    : first = second := by
  cases first
  cases same
  rfl

theorem ofBits32_toBits (value : Float32) : Float32.ofBits value.toBits = value := by
  obtain ⟨⟨bits, valid⟩⟩ := value
  have same := pack_unpack biased32 valid
  exact congrArg Float32.ofModel (model32_ext (congrArg UInt32.ofBitVec same))

theorem ofBits64_toBits (value : Float) : Float.ofBits value.toBits = value := by
  obtain ⟨⟨bits, valid⟩⟩ := value
  have same := pack_unpack biased64 valid
  exact congrArg Float.ofModel (model64_ext (congrArg UInt64.ofBitVec same))

theorem narrow_eq (value : Float)
    : narrow value = .ofModel (.pack (roundFinite Format.binary32 value.toModel.unpack)) := by
  unfold narrow
  congr 2

theorem widen_eq (value : Float32)
    : widen value = .ofModel (.pack (roundFinite Format.binary64 value.toModel.unpack)) := by
  unfold widen
  congr 2

/-- A Real that was read as a float is written as the same Real. -/
theorem narrow_widen (value : Float32) : narrow (widen value) = value := by
  obtain ⟨⟨bits, valid⟩⟩ := value
  have same := FloatFormats.narrow_widen wider64 valid
  rw [narrow_eq, widen_eq]
  exact congrArg Float32.ofModel (model32_ext (congrArg UInt32.ofBitVec same))

-- Contents

theorem decodeReal_content (value : Float32)
    : decodeReal (toBytes value.toBits.toNat 4) = .ok (widen value) := by
  have fits : value.toBits.toNat < 256 ^ 4 := UInt32.toNat_lt _
  have whole : (toBytes value.toBits.toNat 4).take 4 = toBytes value.toBits.toNat 4 :=
    List.take_of_length_le (by rw [length_toBytes])
  unfold decodeReal
  rw [if_neg (by rw [length_toBytes]; decide), whole, fromBytes_toBytes fits, UInt32.ofNat_toNat,
    ofBits32_toBits]

theorem decodeDouble_content (value : Float)
    : decodeDouble (toBytes value.toBits.toNat 8) = .ok value := by
  have fits : value.toBits.toNat < 256 ^ 8 := UInt64.toNat_lt _
  have whole : (toBytes value.toBits.toNat 8).take 8 = toBytes value.toBits.toNat 8 :=
    List.take_of_length_le (by rw [length_toBytes])
  unfold decodeDouble
  rw [if_neg (by rw [length_toBytes]; decide), whole, fromBytes_toBytes fits, UInt64.ofNat_toNat,
    ofBits64_toBits]

theorem decodeBitString_content (value : BitString)
    : decodeBitString (encodeBitString value) = .ok value := by
  obtain ⟨data, unusedBits, inRange⟩ := value
  have read : (UInt8.ofNat unusedBits).toNat = unusedBits := by
    rw [UInt8.toNat_ofNat', Nat.mod_eq_of_lt (by omega)]
  unfold decodeBitString encodeBitString
  simp only [read, dif_pos inRange]

theorem decodeObjectIdentifier_content (value)
    : decodeObjectIdentifier value.encode = .ok value := by
  obtain ⟨⟨type⟩, number⟩ := value
  have fits : type.val * 4194304 + number.val < 256 ^ 4 := by omega
  have whole : (toBytes (type.val * 4194304 + number.val) 4).take 4
      = toBytes (type.val * 4194304 + number.val) 4 :=
    List.take_of_length_le (by rw [length_toBytes])
  have typeField : Fin.ofNat 1024 ((type.val * 4194304 + number.val) / 4194304) = type := by
    apply Fin.ext
    rw [Fin.val_ofNat]
    omega
  have instanceField : Fin.ofNat 4194304 (type.val * 4194304 + number.val) = number := by
    apply Fin.ext
    rw [Fin.val_ofNat]
    omega
  unfold decodeObjectIdentifier ObjectIdentifier.encode
  rw [if_neg (by rw [length_toBytes]; decide)]
  simp only [whole, fromBytes_toBytes fits, typeField, instanceField]

variable [JapaneseCodec]

theorem decodeCharacterString_content (value : String)
    : decodeCharacterString (encodeCharacterString value) = .ok value := by
  have valid : String.fromUTF8? value.toByteArray = some value := by
    unfold String.fromUTF8?
    rw [dif_pos value.isValidUTF8]
    rfl
  have read : decodeUtf8 value.toUTF8.data.toList = some value := by
    rw [decodeUtf8, String.toUTF8_eq_toByteArray]
    exact valid
  unfold decodeCharacterString encodeCharacterString
  simp only [UInt8.toNat_zero, read]

/-- The content of a value leads to the value, except where there is nothing to decode. -/
theorem decodeContent_content (value : ApplicationValue) (typed : 2 ≤ value.tagNumber)
    : decodeContent value.tagNumber value.content = .ok (.scalar value.decoded) := by
  cases value with
  | null | boolean value => simp [ApplicationValue.tagNumber] at typed
  | unsigned value | enumerated value =>
    change Except.ok (Value.int (fromBytes (toBytes value (unsignedSize value)))) = _
    rw [fromBytes_toBytes (lt_unsignedSize value)]
    rfl
  | signed value =>
    change Except.ok (Value.int (decodeSigned (toBytes _ (minSignedBytes value)))) = _
    rw [decodeSigned_content]
    rfl
  | real value => exact congrArg (Value.float <$> ·) (decodeReal_content value)
  | double value => exact congrArg (Value.float <$> ·) (decodeDouble_content value)
  | octetString value => rfl
  | characterString value => exact congrArg (Value.str <$> ·) (decodeCharacterString_content value)
  | bitString value => exact congrArg (Value.bitString <$> ·) (decodeBitString_content value)
  | date year month day dayOfWeek => rfl
  | time hour minute second hundredth => rfl
  | objectIdentifier value =>
    exact congrArg (Value.objectIdentifier <$> ·) (decodeObjectIdentifier_content value)

-- Values

namespace ApplicationValue

variable {value : ApplicationValue} {values : List ApplicationValue} {octets : Bytes}

/-- An encoding is decoded to its value, unless its length is taken for an attack. -/
theorem decode_encoding (encoded : value.encoding = .ok octets) (sane : value.tagLength ≤ 1048576)
    : decodeApplicationValue octets = .ok (.scalar value.decoded) := by
  obtain ⟨header, tagged, same⟩ := bind_eq_ok.mp encoded
  cases same
  have small : value.tagNumber ≤ 14 := by
    have := value.tagNumber_le
    omega
  have read := decodeTag_application [] value.content small tagged
  rw [if_neg (by omega)] at read
  simp only [List.nil_append, List.length_nil, Nat.zero_add] at read
  unfold decodeApplicationValue
  simp only [read, bind, Except.bind]
  by_cases typed : 2 ≤ value.tagNumber
  · have notBoolean : ∀ truth, value ≠ boolean truth := by
      rintro truth rfl
      simp [tagNumber] at typed
    have length : value.tagLength = value.content.length := by
      cases value with
      | boolean truth => exact absurd rfl (notBoolean truth)
      | _ => rfl
    have whole : slice (header ++ value.content) header.length
        (header.length + value.content.length) = value.content := by
      simp [slice]
    have enough : ¬ (header ++ value.content).length < header.length + value.content.length := by
      simp
    have notNull : value.tagNumber ≠ 0 := by omega
    have notOne : value.tagNumber ≠ 1 := by omega
    simp only [length, if_neg notNull, if_neg notOne, if_neg enough, whole, ne_eq, not_true_eq_false,
      if_false]
    exact decodeContent_content value typed
  · cases value with
    | null => rfl
    | boolean truth => cases truth <;> rfl
    | _ => simp [tagNumber] at typed

omit [JapaneseCodec] in
theorem elementEnd (value : ApplicationValue) (tagEnd : Nat)
    : (if value.tagNumber = 1 then tagEnd else tagEnd + value.tagLength)
      = tagEnd + value.content.length := by
  cases value <;> simp [tagNumber, tagLength, content]

/-- The decoder reads the values if none of them looks like an attack, nor their number. -/
def Decodable (count : Nat) (values : List ApplicationValue) : Prop :=
  (∀ value ∈ values, value.tagLength ≤ 1048576)
    ∧ (values = [] ∨ count + values.length ≤ maxDecodedValues)

/-- What is decoded from encodings, one after the other, is their values. By induction on the
values, with all octets before the next one.
-/
theorem decodeValuesFrom_encodings (before : Bytes) (encoded : encodings values = .ok octets)
    {fuel count} (enough : octets.length < fuel) {results}
    : decodeValuesFrom (before ++ octets) fuel before.length count = .ok results
      ↔ Decodable count values ∧ results = values.map fun value => .scalar value.decoded := by
  induction values generalizing before octets fuel count results with
  | nil =>
    cases encoded
    obtain ⟨rounds, rfl⟩ : ∃ rounds, fuel = rounds + 1 := ⟨fuel - 1, by omega⟩
    rw [decodeValuesFrom, if_pos (by simp)]
    simp [Decodable, eq_comm]
  | cons value rest ih =>
    obtain ⟨first, here, later⟩ := bind_eq_ok.mp encoded
    obtain ⟨others, there, same⟩ := bind_eq_ok.mp later
    cases same
    obtain ⟨header, tagged, whole⟩ := bind_eq_ok.mp here
    have small : value.tagNumber ≤ 14 := by
      have := value.tagNumber_le
      omega
    obtain ⟨lvt, extended, form, _⟩ := encodeTag_application small tagged
    have started : 0 < header.length := by simp [form]
    have length : first.length = header.length + value.content.length := by
      rw [← Except.ok.inj whole, List.length_append]
    obtain ⟨rounds, rfl⟩ : ∃ rounds, fuel = rounds + 1 := ⟨fuel - 1, by omega⟩
    rw [List.length_append] at enough
    have header_read := decodeTag_application before (value.content ++ others) small tagged
    rw [← List.append_assoc header, Except.ok.inj whole] at header_read
    have inside : ¬ (before ++ (first ++ others)).length ≤ before.length := by
      rw [List.length_append, List.length_append]
      omega
    have step : Decodable count (value :: rest)
        ↔ count < maxDecodedValues ∧ value.tagLength ≤ 1048576 ∧ Decodable (count + 1) rest := by
      simp only [Decodable, List.forall_mem_cons, reduceCtorEq, false_or, List.length_cons]
      rcases rest with _ | ⟨second, more⟩
      · simp
        omega
      · simp only [List.length_cons, reduceCtorEq, false_or]
        constructor
        · rintro ⟨⟨sane, restSane⟩, few⟩
          exact ⟨by omega, sane, restSane, by omega⟩
        · rintro ⟨_, sane, restSane, few⟩
          exact ⟨⟨sane, restSane⟩, by omega⟩
    rw [decodeValuesFrom, if_neg inside, step]
    by_cases many : maxDecodedValues ≤ count
    · rw [if_pos many]
      simp [Nat.not_lt.mpr many]
    · rw [if_neg many, header_read]
      by_cases attack : 1048576 < value.tagLength
      · rw [if_pos attack]
        simp [bind, Except.bind, Nat.not_le.mpr attack]
      · rw [if_neg attack]
        simp only [bind, Except.bind, ne_eq, not_true_eq_false, if_false]
        rw [elementEnd, Nat.add_assoc, ← length, slice_append,
          decode_encoding here (by omega), ← List.length_append, ← List.append_assoc]
        have sane : count < maxDecodedValues ∧ value.tagLength ≤ 1048576 := ⟨by omega, by omega⟩
        change (_ >>= fun later => Except.ok (_ :: later)) = _ ↔ _
        rw [bind_eq_ok]
        constructor
        · rintro ⟨remaining, more, same⟩
          obtain ⟨decodable, rfl⟩ := (ih (before ++ first) there (by omega)).mp more
          exact ⟨⟨sane.1, sane.2, decodable⟩, (Except.ok.inj same).symm⟩
        · rintro ⟨⟨_, _, decodable⟩, rfl⟩
          exact ⟨_, (ih (before ++ first) there (by omega)).mpr ⟨decodable, rfl⟩, rfl⟩

/-- What a request carries: one value by itself, several in a list. -/
def unwrapped : List ApplicationValue → Value
  | [] => .none
  | [value] => .scalar value.decoded
  | values => .list (values.map fun value => .scalar value.decoded)

theorem decodeAndUnwrap_encodings (encoded : encodings values = .ok octets) {result}
    : decodeAndUnwrap octets = .ok result ↔ Decodable 0 values ∧ result = unwrapped values := by
  have all : ∀ results, decodeAllApplicationValues octets = .ok results
      ↔ Decodable 0 values ∧ results = values.map fun value => .scalar value.decoded :=
    fun _ => decodeValuesFrom_encodings [] encoded (Nat.lt_succ_self _)
  unfold decodeAndUnwrap
  rw [bind_eq_ok]
  constructor
  · rintro ⟨results, read, same⟩
    obtain ⟨decodable, rfl⟩ := (all results).mp read
    refine ⟨decodable, ?_⟩
    rcases values with _ | ⟨_, _ | ⟨_, _⟩⟩
    all_goals exact (Except.ok.inj same).symm
  · rintro ⟨decodable, rfl⟩
    refine ⟨_, (all _).mpr ⟨decodable, rfl⟩, ?_⟩
    rcases values with _ | ⟨_, _ | ⟨_, _⟩⟩
    all_goals rfl

end ApplicationValue

end BacPy
