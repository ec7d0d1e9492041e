import BacPy.Types.AuditRecords
import BacPy.Types.TimeStamps

/-! The primitive codecs: what each encoder accepts is read back from the fewest octets that can
stand for it, but for the dates of one year.
-/

namespace BacPy

-- Sizes of integers

theorem bitLength_le_iff {value bits} : bitLength value ≤ bits ↔ value < 2 ^ bits := by
  unfold bitLength
  split
  · next zero =>
      subst zero
      simp
  · next positive => rw [← Nat.log2_lt positive, Nat.succ_le_iff]

/-- No octets but those of the minimal size, or more, stand for an unsigned number. -/
theorem unsignedSize_le {other} (something : other ≠ [])
    : unsignedSize (fromBytes other) ≤ other.length := by
  have octets : 0 < other.length := List.length_pos_iff.mpr something
  have below := fromBytes_lt other
  by_cases zero : fromBytes other = 0
  · rw [zero]
    exact octets
  · have bits : Nat.log2 (fromBytes other) < 8 * other.length := by
      rw [Nat.log2_lt zero, Nat.pow_mul]
      exact below
    unfold unsignedSize
    omega

/-- What octets stand for in two's complement has room for its sign in them. -/
theorem decodeSigned_range {octets} (something : octets ≠ [])
    : -(2 ^ (8 * octets.length - 1) : Int) ≤ decodeSigned octets
      ∧ decodeSigned octets < (2 ^ (8 * octets.length - 1) : Int) := by
  have positive : 0 < octets.length := List.length_pos_iff.mpr something
  have below := fromBytes_lt octets
  have half : (256 : Nat) ^ octets.length = 2 * 2 ^ (8 * octets.length - 1) := by
    calc
      (256 : Nat) ^ octets.length = 2 ^ (8 * octets.length) := (Nat.pow_mul 2 8 _).symm
      _ = 2 ^ (8 * octets.length - 1 + 1) := by rw [Nat.sub_add_cancel (by omega)]
      _ = 2 * 2 ^ (8 * octets.length - 1) := by rw [Nat.pow_succ, Nat.mul_comm]
  have cast : ((2 ^ (8 * octets.length - 1) : Nat) : Int) = 2 ^ (8 * octets.length - 1) := by
    exact_mod_cast rfl
  unfold decodeSigned
  dsimp only
  have whole : (256 : Int) ^ octets.length = 2 * 2 ^ (8 * octets.length - 1) := by
    exact_mod_cast half
  rw [whole, ← cast, half]
  rw [half] at below
  generalize 2 ^ (8 * octets.length - 1) = limit at *
  split <;> omega

/-- No octets but those of the minimal size, or more, stand for a signed number. -/
theorem minSignedBytes_le_length {other} (something : other ≠ [])
    : minSignedBytes (decodeSigned other) ≤ other.length := by
  have positive : 0 < other.length := List.length_pos_iff.mpr something
  obtain ⟨lower, upper⟩ := decodeSigned_range something
  generalize decodeSigned other = value at *
  have fits : ∀ number : Nat, (number : Int) < 2 ^ (8 * other.length - 1)
      → (bitLength number + 8) / 8 ≤ other.length := by
    intro number small
    have bits : bitLength number ≤ 8 * other.length - 1 :=
      bitLength_le_iff.mpr (by exact_mod_cast small)
    omega
  unfold minSignedBytes
  split
  · exact positive
  · split
    · exact fits _ (by omega)
    · exact fits _ (by omega)

theorem encodeUnsigned64_eq_ok {value data} (encoded : encodeUnsigned64 value = .ok data)
    : data = toBytes value (unsignedSize value) := by
  unfold encodeUnsigned64 at encoded
  split at encoded
  · next small =>
      exact (encodeUnsigned_eq_ok.mp ((if_pos small).trans encoded)).2
  · split at encoded
    · cases encoded
    · have size : (Nat.log2 value + 1 + 7) / 8 = unsignedSize value := by
        rw [unsignedSize]
        omega
      rw [size] at encoded
      exact (Except.ok.inj encoded).symm

-- All primitives

/-- The values that have a primitive codec, but for those of strings and floating-point numbers. -/
inductive Primitive where
  | unsigned (value : Int)
  | unsigned64 (value : Nat)
  | signed (value : Int)
  | date (value : BACnetDate)
  | time (value : BACnetTime)
  | objectIdentifier (value : ObjectIdentifier)

namespace Primitive

def encode : Primitive → Except PyException Bytes
  | unsigned value => encodeUnsignedInt value
  | unsigned64 value => encodeUnsigned64 value
  | signed value => encodeSigned value
  | date value => encodeDate value
  | time value => encodeTime value
  | objectIdentifier value => .ok value.encode

def InRange : Primitive → Prop
  | unsigned value => 0 ≤ value ∧ value ≤ 0xFFFFFFFF
  | unsigned64 value => value ≤ 0xFFFFFFFFFFFFFFFF
  | signed value => -0x80000000 ≤ value ∧ value ≤ 0x7FFFFFFF
  | date value => value.fits
  | time value => value.fits
  | objectIdentifier _ => True

def ReadFrom (octets : Bytes) : Primitive → Prop
  | unsigned value => (decodeUnsigned octets : Int) = value
  | unsigned64 value => decodeUnsigned64 octets = value
  | signed value => decodeSigned octets = value
  | date value => decodeDate octets = .ok value
  | time value => decodeTime octets = .ok value
  | objectIdentifier value => decodeObjectIdentifier octets = .ok value

instance (octets : Bytes) : (value : Primitive) → Decidable (value.ReadFrom octets)
  | unsigned _ => inferInstanceAs (Decidable (_ = _))
  | unsigned64 _ => inferInstanceAs (Decidable (_ = _))
  | signed _ => inferInstanceAs (Decidable (_ = _))
  | date _ => inferInstanceAs (Decidable (_ = _))
  | time _ => inferInstanceAs (Decidable (_ = _))
  | objectIdentifier _ => inferInstanceAs (Decidable (_ = _))

/-- The kinds whose size depends on the value. -/
def IsInteger : Primitive → Prop
  | unsigned _ | unsigned64 _ | signed _ => True
  | _ => False

/-- An integer has at least one octet, and no fewer octets are read as it. -/
def MinimalIn (octets : Bytes) (value : Primitive) : Prop :=
  value.IsInteger → octets ≠ []
    ∧ ∀ other, other ≠ [] → value.ReadFrom other → octets.length ≤ other.length

/-- The value is read back from its octets, and there are no more of them than it needs. -/
def RoundTrips (octets : Bytes) (value : Primitive) : Prop :=
  value.ReadFrom octets ∧ value.MinimalIn octets

/-- A date of the last year that the encoder accepts, whose octet is that of the unspecified year. -/
def IsLastYear : Primitive → Prop
  | date value => value.year = 2155
  | _ => False

variable {octets : Bytes}

theorem unsigned_roundTrips {value} (encoded : encodeUnsignedInt value = .ok octets)
    : (unsigned value).RoundTrips octets := by
  unfold encodeUnsignedInt at encoded
  split at encoded
  · cases encoded
  · next natural =>
      obtain ⟨number, rfl⟩ := Int.eq_ofNat_of_zero_le (Int.not_lt.mp natural)
      obtain ⟨_, rfl⟩ := encodeUnsigned_eq_ok.mp encoded
      rw [Int.toNat_natCast]
      refine ⟨congrArg Int.ofNat (fromBytes_toBytes (lt_unsignedSize number)), fun _ => ⟨?_, ?_⟩⟩
      · exact List.ne_nil_of_length_pos (by rw [length_toBytes]; exact Nat.succ_pos _)
      · intro other something read
        obtain rfl := Int.ofNat.inj read
        rw [length_toBytes]
        exact unsignedSize_le something

theorem unsigned64_roundTrips {value} (encoded : encodeUnsigned64 value = .ok octets)
    : (unsigned64 value).RoundTrips octets := by
  obtain rfl := encodeUnsigned64_eq_ok encoded
  refine ⟨fromBytes_toBytes (lt_unsignedSize value), fun _ => ⟨?_, ?_⟩⟩
  · exact List.ne_nil_of_length_pos (by rw [length_toBytes]; exact Nat.succ_pos _)
  · rintro other something rfl
    rw [length_toBytes]
    exact unsignedSize_le something

theorem signed_roundTrips {value} (encoded : encodeSigned value = .ok octets)
    : (signed value).RoundTrips octets := by
  unfold encodeSigned at encoded
  split at encoded
  · cases encoded
  · cases encoded
    refine ⟨decodeSigned_content value, fun _ => ⟨?_, ?_⟩⟩
    · refine List.ne_nil_of_length_pos ?_
      rw [length_toBytes]
      unfold minSignedBytes
      split
      · exact Nat.one_pos
      · split <;> omega
    · rintro other something rfl
      rw [length_toBytes]
      exact minSignedBytes_le_length something

theorem validDate_of_fits {value} (fits : value.fits) : BACnetTimeStamp.ValidDate value := by
  obtain ⟨year, month, day, dayOfWeek⟩ := of_decide_eq_true fits
  exact ⟨year, Nat.le_of_lt_succ month, Nat.le_of_lt_succ day, Nat.le_of_lt_succ dayOfWeek⟩

theorem validTime_of_fits {value} (fits : value.fits) : BACnetTimeStamp.ValidTime value := by
  obtain ⟨hour, minute, second, hundredth⟩ := of_decide_eq_true fits
  exact ⟨Nat.le_of_lt_succ hour, Nat.le_of_lt_succ minute, Nat.le_of_lt_succ second,
    Nat.le_of_lt_succ hundredth⟩

theorem date_roundTrips_iff {value} (encoded : encodeDate value = .ok octets)
    : (date value).RoundTrips octets ↔ value.year ≠ 2155 := by
  obtain ⟨octets', same, _, read⟩ := BACnetTimeStamp.decodeDate_octets
    (validDate_of_fits (encodeDate_ok_iff.mp ⟨octets, encoded⟩))
  cases same.symm.trans encoded
  constructor
  · rintro ⟨back, _⟩ last
    have years := congrArg BACnetDate.year (Except.ok.inj (read.symm.trans back))
    simp only [BACnetTimeStamp.readYear, if_pos last] at years
    omega
  · intro known
    rw [BACnetTimeStamp.readYear, if_neg known] at read
    exact ⟨read, False.elim⟩

theorem time_roundTrips {value} (encoded : encodeTime value = .ok octets)
    : (time value).RoundTrips octets := by
  obtain ⟨octets', same, _, read⟩ := BACnetTimeStamp.decodeTime_octets
    (validTime_of_fits (encodeTime_ok_iff.mp ⟨octets, encoded⟩))
  cases same.symm.trans encoded
  exact ⟨read, False.elim⟩

/-- The encoders accept what is within their ranges. -/
theorem encode_ok_iff {value : Primitive} : (∃ octets, value.encode = .ok octets) ↔ value.InRange := by
  cases value with
  | unsigned value =>
    simp only [encode, encodeUnsignedInt, InRange]
    split
    · next negative => exact iff_of_false (by simp) (by omega)
    · next natural =>
        simp only [encodeUnsigned_eq_ok]
        constructor
        · rintro ⟨_, small, _⟩
          omega
        · exact fun small => ⟨_, by omega, rfl⟩
  | unsigned64 value =>
    simp only [encode, encodeUnsigned64, InRange]
    split
    · next small => exact iff_of_true ⟨_, rfl⟩ (by omega)
    · split
      · next large => exact iff_of_false (by simp) (by omega)
      · next fits => exact iff_of_true ⟨_, rfl⟩ (by omega)
  | signed value =>
    simp only [encode, encodeSigned, InRange]
    split
    · next outside => exact iff_of_false (by simp) (by omega)
    · next inside => exact iff_of_true ⟨_, rfl⟩ (by omega)
  | date value => exact encodeDate_ok_iff
  | time value => exact encodeTime_ok_iff
  | objectIdentifier value => exact iff_of_true ⟨_, rfl⟩ trivial

theorem roundTrips_iff {value : Primitive} (encoded : value.encode = .ok octets)
    : value.RoundTrips octets ↔ ¬ value.IsLastYear := by
  cases value with
  | unsigned value => exact iff_of_true (unsigned_roundTrips encoded) id
  | unsigned64 value => exact iff_of_true (unsigned64_roundTrips encoded) id
  | signed value => exact iff_of_true (signed_roundTrips encoded) id
  | date value => exact date_roundTrips_iff encoded
  | time value => exact iff_of_true (time_roundTrips encoded) id
  | objectIdentifier value =>
    cases encoded
    exact iff_of_true ⟨decodeObjectIdentifier_content value, False.elim⟩ id

/-- What is within an encoder's range is read back, and from the fewest octets, unless it is a date of
the last year.
-/
theorem primitives_round_trip_iff (value : Primitive)
    : ((∃ octets, value.encode = .ok octets) ↔ value.InRange)
      ∧ ∀ octets, value.encode = .ok octets → (value.RoundTrips octets ↔ ¬ value.IsLastYear) :=
  ⟨encode_ok_iff, fun _ encoded => roundTrips_iff encoded⟩

/-- The last day of the year 2155 is read back as a day of no year. -/
theorem last_year_lost
    : (date ⟨2155, 12, 31, 3⟩).encode = .ok [0xFF, 12, 31, 3]
      ∧ ¬ (date ⟨2155, 12, 31, 3⟩).RoundTrips [0xFF, 12, 31, 3] := by
  refine ⟨by decide, fun kept => ?_⟩
  exact absurd kept.1 (by decide)

end Primitive

end BacPy
