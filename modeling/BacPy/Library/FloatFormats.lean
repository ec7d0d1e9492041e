import Mathlib.Data.Nat.Log
import Mathlib.Tactic.Ring

/-! Floating-point numbers of two formats: packing loses nothing of a number that is canonical for
its format, and rounding to a wider format and back gives the number itself.
-/

namespace BacPy.Library.FloatFormats

open Float.Model
open BitVec (ofNat toNat_ofNat toNat_inj toNat_zero ofNat_toNat setWidth_eq)

variable {spec : Format} {mantissa : Nat} {exponent : Int}

-- Canonical numbers

def properExponent (spec : Format) (mantissa : Nat) (exponent : Int) : Int :=
  spec.targetExponent (totalExponent mantissa exponent)

/-- A format has a number with the very exponent that is given. -/
structure Canonical (spec : Format) (mantissa : Nat) (exponent : Int) : Prop where
  proper : properExponent spec mantissa exponent = exponent
  fits : exponent + spec.mantissaBitsWithoutImplicit ≤ spec.exponentBias

theorem mantissaBits_eq (spec : Format)
    : spec.mantissaBits = 1 + spec.mantissaBitsWithoutImplicit :=
  rfl

theorem minExponent_add_bias (spec : Format)
    : spec.minExponent + spec.exponentBias + spec.mantissaBitsWithoutImplicit = 1 := by
  have positive : 1 ≤ 2 ^ (spec.exponentBits - 1) := Nat.one_le_two_pow
  have bias : (spec.exponentBias : Int) = 2 ^ (spec.exponentBits - 1) - 1 := by
    rw [Format.exponentBias, Int.natCast_sub positive]
    norm_cast
  rw [bias, Format.minExponent, mantissaBits_eq]
  push_cast
  ring

/-- Two of the stored exponents are special. -/
theorem storedExponents (spec : Format) : 2 ^ spec.exponentBits = 2 * spec.exponentBias + 2 := by
  obtain ⟨width, same⟩ : ∃ width, spec.exponentBits = width + 1 :=
    ⟨spec.exponentBits - 1, by have := spec.he; omega⟩
  have positive : 1 ≤ 2 ^ width := Nat.one_le_two_pow
  rw [Format.exponentBias, same, Nat.add_sub_cancel, Nat.pow_succ]
  omega

theorem properExponent_eq (spec : Format) (mantissa : Nat) (exponent : Int)
    : properExponent spec mantissa exponent
      = max (mantissa.log2 + exponent - spec.mantissaBitsWithoutImplicit) spec.minExponent := by
  unfold properExponent Format.targetExponent totalExponent
  rw [mantissaBits_eq]
  congr 1
  push_cast
  ring

/-- A shifted mantissa is the same number under a lower exponent. -/
theorem properExponent_shift (positive : 0 < mantissa) (shift : Nat)
    : properExponent spec (mantissa * 2 ^ shift) (exponent - shift)
      = properExponent spec mantissa exponent := by
  have log : (mantissa * 2 ^ shift).log2 = mantissa.log2 + shift := by
    induction shift with
    | zero => rw [Nat.pow_zero, Nat.mul_one, Nat.add_zero]
    | succ shift ih =>
      have shifted : mantissa * 2 ^ shift ≠ 0 :=
        Nat.mul_ne_zero (by omega) (Nat.pow_pos (by decide)).ne'
      rw [Nat.pow_succ, ← Nat.mul_assoc, Nat.mul_comm _ 2, Nat.log2_two_mul shifted, ih,
        Nat.add_assoc]
  rw [properExponent_eq, properExponent_eq, log]
  push_cast
  congr 1
  ring

-- Rounding

open UnpackedFloat

theorem shiftRight_succ (extended : ExtendedMantissa) (shift : Nat)
    : extended >>> (shift + 1) = (extended >>> shift).shiftRightOne :=
  rfl

/-- A shift that only drops zeros is exact. -/
theorem shiftRight_exact (mantissa shift : Nat)
    : (⟨mantissa * 2 ^ shift, false, false⟩ : ExtendedMantissa) >>> shift
      = ⟨mantissa, false, false⟩ := by
  induction shift generalizing mantissa with
  | zero => simp [HShiftRight.hShiftRight, Nat.repeat]
  | succ shift ih =>
    have again : mantissa * 2 ^ (shift + 1) = (mantissa * 2) * 2 ^ shift := by ring
    rw [shiftRight_succ, again, ih]
    simp [ExtendedMantissa.shiftRightOne]

/-- A number that is a proper one apart from trailing zeros is rounded to itself. -/
theorem shiftToTargetExponent_exact (positive : 0 < mantissa)
    (proper : properExponent spec mantissa exponent = exponent) (shift : Nat)
    : shiftToTargetExponent spec (mantissa * 2 ^ shift) (exponent - shift) .exact
      = (⟨mantissa, false, false⟩, exponent) := by
  have target : spec.targetExponent (totalExponent (mantissa * 2 ^ shift) (exponent - shift))
      = exponent := (properExponent_shift positive shift).trans proper
  have amount : (exponent - (exponent - shift)).toNat = shift := by omega
  unfold shiftToTargetExponent shiftToExponent ExtendedMantissa.ofMantissaAndAccuracy
  simp only [target, amount, shiftRight_exact, sub_add_cancel]

theorem roundWithAccuracy_exact (sign : Sign) (positive : 0 < mantissa)
    (proper : properExponent spec mantissa exponent = exponent) (shift : Nat)
    : roundWithAccuracy spec sign (mantissa * 2 ^ shift) (exponent - shift) .exact
      = .finite sign mantissa exponent positive := by
  have again := shiftToTargetExponent_exact positive proper 0
  rw [Nat.pow_zero, Nat.mul_one, Nat.cast_zero, sub_zero] at again
  have rounded : (⟨mantissa, false, false⟩ : ExtendedMantissa).roundedMantissa = mantissa := rfl
  unfold roundWithAccuracy
  rw [shiftToTargetExponent_exact positive proper shift]
  dsimp only
  rw [rounded, again]
  dsimp only
  rw [dif_neg (by omega)]

/-- Rounding drops trailing zeros down to the proper exponent. -/
theorem round_drops (sign : Sign) (positive : 0 < mantissa)
    (proper : properExponent spec mantissa exponent = exponent) (shift : Nat)
    : UnpackedFloat.round spec sign (mantissa * 2 ^ shift) (exponent - shift)
      = .finite sign mantissa exponent positive := by
  have target : spec.targetExponent (totalExponent (mantissa * 2 ^ shift) (exponent - shift))
      = exponent := (properExponent_shift positive shift).trans proper
  have amount : (exponent - shift - exponent).toNat = 0 := by omega
  rw [← roundWithAccuracy_exact sign positive proper shift]
  unfold UnpackedFloat.round decreaseExponent
  simp only [target, amount, Nat.shiftLeft_zero, Nat.cast_zero, sub_zero]

/-- Rounding adds trailing zeros down to the proper exponent. -/
theorem round_adds (sign : Sign) (positive : 0 < mantissa) {shift : Nat}
    (proper : properExponent spec mantissa exponent = exponent - shift)
    (shifted : 0 < mantissa * 2 ^ shift)
    : UnpackedFloat.round spec sign mantissa exponent
      = .finite sign (mantissa * 2 ^ shift) (exponent - shift) shifted := by
  have target : spec.targetExponent (totalExponent mantissa exponent) = exponent - shift := proper
  have amount : (exponent - (exponent - shift)).toNat = shift := by omega
  have there : properExponent spec (mantissa * 2 ^ shift) (exponent - shift) = exponent - shift :=
    (properExponent_shift positive shift).trans proper
  have rounded := roundWithAccuracy_exact sign shifted there 0
  rw [Nat.pow_zero, Nat.mul_one, Nat.cast_zero, sub_zero] at rounded
  rw [← rounded]
  unfold UnpackedFloat.round decreaseExponent
  simp only [target, amount, Nat.shiftLeft_eq]

-- Packing

theorem unpackSign_eq (bits : BitVec spec.numBits)
    : unpackSign bits = (bits.extractLsb (spec.mantissaBitsWithoutImplicit + spec.exponentBits)
        (spec.mantissaBitsWithoutImplicit + spec.exponentBits)).cast (by omega) :=
  rfl

/-- The sign bit is in front of the two other fields. -/
theorem unpackSign_pack (sign : Sign) (exponent : BitVec spec.exponentBits)
    (mantissa : BitVec spec.mantissaBitsWithoutImplicit)
    : Sign.ofBitVec (unpackSign (packComponents spec sign exponent mantissa)) = sign := by
  have bit : unpackSign (packComponents spec sign exponent mantissa) = sign.toBitVec := by
    ext index inside
    obtain rfl : index = 0 := by omega
    simp [unpackSign_eq, packComponents, BitVec.getLsbD_append, BitVec.getElem_append]
  rw [bit]
  cases sign <;> rfl

/-- The three fields are all there is. -/
theorem packComponents_fields (bits : BitVec spec.numBits)
    : packComponents spec (Sign.ofBitVec (unpackSign bits)) (unpackExponent bits)
        (unpackMantissa bits) = bits := by
  have sign : (Sign.ofBitVec (unpackSign bits)).toBitVec = unpackSign bits := by
    generalize unpackSign bits = bit
    revert bit
    decide
  unfold packComponents
  rw [sign]
  apply BitVec.eq_of_getLsbD_eq
  intro index inside
  have someExponent := spec.he
  have someMantissa := spec.hm
  simp only [BitVec.getLsbD_append, unpackSign_eq, unpackExponent, unpackMantissa, BitVec.getLsbD_cast,
    BitVec.getLsbD_extractLsb]
  split
  · next low =>
      have inField : index < spec.mantissaBitsWithoutImplicit - 1 + 1 := by omega
      simp [inField]
  · next high =>
      have whole : spec.mantissaBitsWithoutImplicit + (index - spec.mantissaBitsWithoutImplicit)
          = index := by omega
      split
      · next middle =>
          have inField : index - spec.mantissaBitsWithoutImplicit
              < spec.mantissaBitsWithoutImplicit + spec.exponentBits - 1
                - spec.mantissaBitsWithoutImplicit + 1 := by omega
          simp [whole, inField]
      · next top =>
          have last : index - spec.mantissaBitsWithoutImplicit - spec.exponentBits = 0 := by omega
          have there : spec.mantissaBitsWithoutImplicit + spec.exponentBits = index := by omega
          simp [last, there]

/-- The implicit bit is put in front of the stored mantissa. -/
theorem toNat_implicit {width} (stored : BitVec width)
    : (1#1 ++ stored).toNat = 2 ^ width + stored.toNat := by
  rw [BitVec.toNat_append, ← Nat.shiftLeft_add_eq_or_of_lt stored.isLt, Nat.shiftLeft_eq]
  simp

theorem toNat_field {width value} (fits : value < 2 ^ width)
    : (ofNat width value).toNat = value := by
  rw [toNat_ofNat, Nat.mod_eq_of_lt fits]

theorem allOnes_iff {width} (field : BitVec width)
    : field = -1#_ ↔ field.toNat + 1 = 2 ^ width := by
  have positive : 0 < 2 ^ width := Nat.two_pow_pos width
  rw [← toNat_inj, BitVec.neg_one_eq_allOnes, BitVec.toNat_allOnes]
  omega

theorem zeros_iff {width} (field : BitVec width) : field = 0#_ ↔ field.toNat = 0 := by
  rw [← toNat_inj, toNat_zero]

/-- The two kinds of canonical numbers: all bits of the mantissa are used, or the exponent is the
smallest one.
-/
theorem Canonical.kinds (canonical : Canonical spec mantissa exponent)
    : (mantissa.log2 = spec.mantissaBitsWithoutImplicit ∧ spec.minExponent ≤ exponent)
      ∨ (mantissa.log2 < spec.mantissaBitsWithoutImplicit ∧ exponent = spec.minExponent) := by
  have proper := canonical.proper
  rw [properExponent_eq] at proper
  omega

theorem pack_normal (sign : Sign) (positive : 0 < mantissa)
    (log : mantissa.log2 = spec.mantissaBitsWithoutImplicit) {field : Nat}
    (stored : exponent + spec.exponentBias + spec.mantissaBitsWithoutImplicit = field)
    (finite : field + 1 < 2 ^ spec.exponentBits)
    : pack spec (.finite sign mantissa exponent positive)
      = packComponents spec sign (ofNat _ field) (ofNat _ mantissa) := by
  have full : mantissa.log2 + 1 = spec.mantissaBits := by
    rw [log, mantissaBits_eq, Nat.add_comm]
  unfold UnpackedFloat.pack
  simp only [stored, Int.toNat_natCast, if_neg (Nat.not_le.mpr finite), if_pos full]

theorem pack_subnormal (sign : Sign) (positive : 0 < mantissa)
    (log : mantissa.log2 < spec.mantissaBitsWithoutImplicit) (ranges : 0 < spec.exponentBias)
    : pack spec (.finite sign mantissa spec.minExponent positive)
      = packComponents spec sign 0#_ (ofNat _ mantissa) := by
  have notFull : ¬ mantissa.log2 + 1 = spec.mantissaBits := by
    rw [mantissaBits_eq]
    omega
  have finite : ¬ 2 ^ spec.exponentBits ≤ 1 + 1 := by
    rw [storedExponents]
    omega
  unfold UnpackedFloat.pack
  simp only [minExponent_add_bias, Int.toNat_one, if_neg finite, if_neg notFull]

/-- A stored exponent between the special ones makes a normal number. -/
theorem unpack_normal {bits sign} (positive : 0 < mantissa) (notOnes : unpackExponent bits ≠ -1#_)
    (notZeros : unpackExponent bits ≠ 0#_) (signed : Sign.ofBitVec (unpackSign bits) = sign)
    (read : (1#1 ++ unpackMantissa bits).toNat = mantissa)
    (shifted : ((unpackExponent bits).toNat : Int)
      - (spec.exponentBias + spec.mantissaBitsWithoutImplicit) = exponent)
    : unpack spec bits = .finite sign mantissa exponent positive := by
  subst signed read shifted
  unfold UnpackedFloat.unpack
  dsimp only
  rw [if_neg notOnes, if_neg notZeros]

/-- A stored exponent of zero makes a subnormal number. -/
theorem unpack_subnormal {bits sign} (positive : 0 < mantissa)
    (notOnes : unpackExponent bits ≠ -1#_) (zeros : unpackExponent bits = 0#_)
    (something : unpackMantissa bits ≠ 0#_) (signed : Sign.ofBitVec (unpackSign bits) = sign)
    (read : (unpackMantissa bits).toNat = mantissa)
    (shifted : ((unpackExponent bits).toNat : Int)
      - (spec.exponentBias + spec.mantissaBitsWithoutImplicit) + 1 = exponent)
    : unpack spec bits = .finite sign mantissa exponent positive := by
  subst signed read shifted
  unfold UnpackedFloat.unpack
  dsimp only
  rw [if_neg notOnes, if_pos zeros, dif_neg something]

theorem unpack_zero {bits} (notOnes : unpackExponent bits ≠ -1#_)
    (zeros : unpackExponent bits = 0#_) (nothing : unpackMantissa bits = 0#_)
    : unpack spec bits = .zero (Sign.ofBitVec (unpackSign bits)) := by
  unfold UnpackedFloat.unpack
  dsimp only
  rw [if_neg notOnes, if_pos zeros, dif_pos nothing]

theorem unpack_special {bits : BitVec spec.numBits} (ones : unpackExponent bits = -1#_)
    : unpack spec bits
      = if unpackMantissa bits = 0#_ then .infinity (Sign.ofBitVec (unpackSign bits))
        else .notANumber := by
  unfold UnpackedFloat.unpack
  dsimp only
  rw [if_pos ones]

/-- Packing a canonical number loses nothing. -/
theorem unpack_pack (sign : Sign) (positive : 0 < mantissa)
    (canonical : Canonical spec mantissa exponent)
    : unpack spec (pack spec (.finite sign mantissa exponent positive))
      = .finite sign mantissa exponent positive := by
  have exponents := storedExponents spec
  have smallest := minExponent_add_bias spec
  have fits := canonical.fits
  rcases canonical.kinds with ⟨log, notSmaller⟩ | ⟨log, rfl⟩
  · obtain ⟨field, stored⟩ : ∃ field : Nat,
        exponent + spec.exponentBias + spec.mantissaBitsWithoutImplicit = field :=
      ⟨_, (Int.toNat_of_nonneg (by omega)).symm⟩
    have finite : field + 1 < 2 ^ spec.exponentBits := by omega
    have read : (ofNat spec.exponentBits field).toNat = field := toNat_field (by omega)
    have notOnes : ofNat spec.exponentBits field ≠ -1#_ := by
      rw [Ne, allOnes_iff, read]
      omega
    have notZeros : ofNat spec.exponentBits field ≠ 0#_ := by
      rw [Ne, zeros_iff, read]
      omega
    have mantissaRead : (1#1 ++ ofNat spec.mantissaBitsWithoutImplicit mantissa).toNat
        = mantissa := by
      have bounds := (Nat.log2_eq_iff (by omega)).mp log
      rw [Nat.pow_succ] at bounds
      rw [toNat_implicit, toNat_ofNat, Nat.mod_eq_sub_mod bounds.1,
        Nat.mod_eq_of_lt (by omega)]
      omega
    rw [pack_normal sign positive log stored finite]
    refine unpack_normal positive ?_ ?_ (unpackSign_pack ..) ?_ ?_
    · rwa [unpackExponent_packComponents]
    · rwa [unpackExponent_packComponents]
    · rwa [unpackMantissa_packComponents]
    · rw [unpackExponent_packComponents, read]
      omega
  · have ranges : 0 < spec.exponentBias := by omega
    have small : mantissa < 2 ^ spec.mantissaBitsWithoutImplicit :=
      (Nat.log2_lt (by omega)).mp log
    have read := toNat_field small
    have notOnes : (0#_ : BitVec spec.exponentBits) ≠ -1#_ := by
      rw [Ne, allOnes_iff, toNat_zero]
      omega
    have notZeros : ofNat spec.mantissaBitsWithoutImplicit mantissa ≠ 0#_ := by
      rw [Ne, zeros_iff, read]
      omega
    rw [pack_subnormal sign positive log ranges]
    refine unpack_subnormal positive ?_ (unpackExponent_packComponents ..) ?_ (unpackSign_pack ..) ?_ ?_
    · rwa [unpackExponent_packComponents]
    · rwa [unpackMantissa_packComponents]
    · rwa [unpackMantissa_packComponents]
    · rw [unpackExponent_packComponents, toNat_zero]
      omega

/-- The special numbers have their own packed forms. -/
theorem unpack_pack_special {value}
    (special : ∀ sign mantissa exponent positive,
      value ≠ .finite sign mantissa exponent positive)
    : unpack spec (pack spec value) = value := by
  have notOnes : (0#_ : BitVec spec.exponentBits) ≠ -1#_ := by
    have exponents := storedExponents spec
    rw [Ne, allOnes_iff, toNat_zero]
    omega
  cases value with
  | finite sign mantissa exponent positive => exact absurd rfl (special _ _ _ _)
  | infinity sign =>
    change unpack spec (packedInfinity spec sign) = .infinity sign
    unfold packedInfinity
    rw [unpack_special (unpackExponent_packComponents ..), unpackMantissa_packComponents,
      if_pos BitVec.ofNat_eq_ofNat, unpackSign_pack]
  | zero sign =>
    change unpack spec (packedZero spec sign) = .zero sign
    unfold packedZero
    refine (unpack_zero ?_ (unpackExponent_packComponents ..)
      (unpackMantissa_packComponents ..)).trans (congrArg UnpackedFloat.zero (unpackSign_pack ..))
    rwa [unpackExponent_packComponents]
  | notANumber =>
    have quiet : 1#_ <<< (spec.mantissaBitsWithoutImplicit - 1)
        ≠ (0#_ : BitVec spec.mantissaBitsWithoutImplicit) := by
      have bits := spec.hm
      intro none_
      have top := congrArg (BitVec.getLsbD · (spec.mantissaBitsWithoutImplicit - 1)) none_
      simp at top
      omega
    change unpack spec (packedNaN spec) = .notANumber
    unfold packedNaN
    rw [unpack_special (unpackExponent_packComponents ..), unpackMantissa_packComponents,
      if_neg quiet]

theorem canonical_of_unpack (ranges : 0 < spec.exponentBias) {bits sign positive}
    (unpacked : unpack spec bits = .finite sign mantissa exponent positive)
    : Canonical spec mantissa exponent := by
  have exponents := storedExponents spec
  have smallest := minExponent_add_bias spec
  have below := (unpackExponent bits).isLt
  by_cases ones : unpackExponent bits = -1#_
  · rw [unpack_special ones] at unpacked
    by_cases nothing : unpackMantissa bits = 0#_
    · rw [if_pos nothing] at unpacked
      cases unpacked
    · rw [if_neg nothing] at unpacked
      cases unpacked
  have notOnes := ones
  rw [allOnes_iff] at notOnes
  by_cases zeros : unpackExponent bits = 0#_
  · by_cases nothing : unpackMantissa bits = 0#_
    · rw [unpack_zero ones zeros nothing] at unpacked
      cases unpacked
    have something : 0 < (unpackMantissa bits).toNat :=
      Nat.pos_of_ne_zero fun zero => nothing (BitVec.eq_of_toNat_eq zero)
    rw [unpack_subnormal something ones zeros nothing rfl rfl rfl] at unpacked
    obtain ⟨_, rfl, rfl⟩ := UnpackedFloat.finite.inj unpacked
    have log : (unpackMantissa bits).toNat.log2 < spec.mantissaBitsWithoutImplicit :=
      (Nat.log2_lt (by omega)).mpr (unpackMantissa bits).isLt
    rw [zeros_iff] at zeros
    constructor
    · rw [properExponent_eq]
      omega
    · omega
  · have implicit : 0 < (1#1 ++ unpackMantissa bits).toNat := by
      rw [toNat_implicit]
      omega
    rw [unpack_normal implicit ones zeros rfl rfl rfl] at unpacked
    obtain ⟨_, rfl, rfl⟩ := UnpackedFloat.finite.inj unpacked
    have log : (1#1 ++ unpackMantissa bits).toNat.log2 = spec.mantissaBitsWithoutImplicit := by
      have stored := (unpackMantissa bits).isLt
      rw [Nat.log2_eq_iff (by omega), toNat_implicit, Nat.pow_succ]
      omega
    rw [zeros_iff] at zeros
    constructor
    · rw [properExponent_eq, log]
      omega
    · omega

/-- Unpacking loses nothing of a number in its canonical bits. -/
theorem pack_unpack (ranges : 0 < spec.exponentBias) {bits : BitVec spec.numBits}
    (valid : spec.Valid bits)
    : pack spec (unpack spec bits) = bits := by
  have exponents := storedExponents spec
  have smallest := minExponent_add_bias spec
  have below := (unpackExponent bits).isLt
  have fields := packComponents_fields bits
  by_cases ones : unpackExponent bits = -1#_
  · rw [unpack_special ones]
    by_cases nothing : unpackMantissa bits = 0#_
    · rw [if_pos nothing]
      rw [ones, nothing] at fields
      exact fields
    · rw [if_neg nothing]
      exact (valid.eq_packedNaN ones nothing).symm
  have notOnes := ones
  rw [allOnes_iff] at notOnes
  by_cases zeros : unpackExponent bits = 0#_
  · by_cases nothing : unpackMantissa bits = 0#_
    · rw [unpack_zero ones zeros nothing]
      rw [zeros, nothing] at fields
      exact fields
    have something : (unpackMantissa bits).toNat ≠ 0 :=
      fun zero => nothing (BitVec.eq_of_toNat_eq zero)
    have log : (unpackMantissa bits).toNat.log2 < spec.mantissaBitsWithoutImplicit :=
      (Nat.log2_lt something).mpr (unpackMantissa bits).isLt
    have least : ((unpackExponent bits).toNat : Int)
        - (spec.exponentBias + spec.mantissaBitsWithoutImplicit) + 1 = spec.minExponent := by
      rw [zeros_iff] at zeros
      omega
    rw [unpack_subnormal (Nat.pos_of_ne_zero something) ones zeros nothing rfl rfl least,
      pack_subnormal _ _ log ranges, ofNat_toNat, setWidth_eq]
    rw [zeros] at fields
    exact fields
  · have stored := (unpackMantissa bits).isLt
    have implicit : 0 < (1#1 ++ unpackMantissa bits).toNat := by
      rw [toNat_implicit]
      omega
    have log : (1#1 ++ unpackMantissa bits).toNat.log2 = spec.mantissaBitsWithoutImplicit := by
      rw [Nat.log2_eq_iff (by omega), toNat_implicit, Nat.pow_succ]
      omega
    have mantissaField : ofNat spec.mantissaBitsWithoutImplicit
        (1#1 ++ unpackMantissa bits).toNat = unpackMantissa bits := by
      rw [← toNat_inj, toNat_ofNat, toNat_implicit, Nat.add_mod_left,
        Nat.mod_eq_of_lt stored]
    have exponentField : ((unpackExponent bits).toNat : Int)
        - (spec.exponentBias + spec.mantissaBitsWithoutImplicit) + spec.exponentBias
          + spec.mantissaBitsWithoutImplicit = (unpackExponent bits).toNat := by
      omega
    have someExponent := zeros
    rw [zeros_iff] at someExponent
    rw [unpack_normal implicit ones zeros rfl rfl rfl,
      pack_normal _ _ log exponentField (by omega), mantissaField, ofNat_toNat,
      setWidth_eq]
    exact fields

-- Two formats

/-- A format has all finite numbers of another one. -/
structure Wider (wide spec : Format) : Prop where
  ranges : 0 < spec.exponentBias
  mantissa : spec.mantissaBitsWithoutImplicit ≤ wide.mantissaBitsWithoutImplicit
  smallest : wide.minExponent ≤ spec.minExponent
  largest : spec.exponentBias ≤ wide.exponentBias

/-- A canonical number has a canonical form in a wider format, which rounds back to it. -/
theorem round_wider {wide} (wider : Wider wide spec) (sign : Sign) (positive : 0 < mantissa)
    (canonical : Canonical spec mantissa exponent)
    : ∃ larger lower, ∃ there : 0 < larger,
        UnpackedFloat.round wide sign mantissa exponent = .finite sign larger lower there
        ∧ Canonical wide larger lower
        ∧ UnpackedFloat.round spec sign larger lower
          = .finite sign mantissa exponent positive := by
  have smallest := minExponent_add_bias wide
  have fits := canonical.fits
  have log : mantissa.log2 ≤ spec.mantissaBitsWithoutImplicit := by
    rcases canonical.kinds with ⟨full, _⟩ | ⟨small, _⟩
    · exact full.le
    · exact small.le
  have notSmaller : spec.minExponent ≤ exponent := by
    rcases canonical.kinds with ⟨_, above⟩ | ⟨_, least⟩
    · exact above
    · exact least.ge
  obtain ⟨_, mantissas, exponents, biases⟩ := wider
  have shorter := properExponent_eq wide mantissa exponent
  obtain ⟨shift, proper⟩ : ∃ shift : Nat, properExponent wide mantissa exponent = exponent - shift :=
    ⟨(exponent - properExponent wide mantissa exponent).toNat, by omega⟩
  have there : 0 < mantissa * 2 ^ shift := Nat.mul_pos positive (Nat.two_pow_pos shift)
  refine ⟨_, _, there, round_adds sign positive proper there, ⟨?_, ?_⟩,
    round_drops sign positive canonical.proper shift⟩
  · rw [properExponent_shift positive, proper]
  · omega

def roundFinite (spec : Format) : UnpackedFloat → UnpackedFloat
  | .finite sign mantissa exponent _ => UnpackedFloat.round spec sign mantissa exponent
  | special => special

theorem roundFinite_finite (sign : Sign) (positive : 0 < mantissa)
    : roundFinite spec (.finite sign mantissa exponent positive)
      = UnpackedFloat.round spec sign mantissa exponent := by
  rfl

theorem roundFinite_special {value}
    (special : ∀ sign mantissa exponent positive,
      value ≠ .finite sign mantissa exponent positive)
    : roundFinite spec value = value := by
  cases value with
  | finite sign mantissa exponent positive => exact absurd rfl (special _ _ _ _)
  | infinity sign | notANumber | zero sign => rfl

/-- An unpacked float is a finite number other than zero, or has its own packed form. -/
theorem finite_or_special (value : UnpackedFloat)
    : (∃ sign mantissa exponent positive, value = .finite sign mantissa exponent positive)
      ∨ ∀ sign mantissa exponent positive,
          value ≠ .finite sign mantissa exponent positive := by
  cases value with
  | finite sign mantissa exponent positive => exact .inl ⟨sign, mantissa, exponent, positive, rfl⟩
  | infinity | notANumber | zero =>
    right
    intro sign mantissa exponent positive same
    cases same

/-- A float that goes to a wider format and back is as it was. -/
theorem narrow_widen {wide} (wider : Wider wide spec) {bits} (valid : spec.Valid bits)
    : pack spec (roundFinite spec (unpack wide
        (pack wide (roundFinite wide (unpack spec bits))))) = bits := by
  have back := pack_unpack wider.ranges valid
  obtain ⟨sign, mantissa, exponent, positive, unpacked⟩ | special :=
    finite_or_special (unpack spec bits)
  · obtain ⟨larger, lower, there, widened, canonical, narrowed⟩ :=
      round_wider wider sign positive (canonical_of_unpack wider.ranges unpacked)
    rw [unpacked, roundFinite_finite, widened, unpack_pack sign there canonical,
      roundFinite_finite, narrowed, ← unpacked, back]
  · rw [roundFinite_special special, unpack_pack_special special,
      roundFinite_special special, back]

end BacPy.Library.FloatFormats
