import Assay.Number.Binary
import Mathlib

/-! Places of floating-point numbers and their comparison. Sign, magnitude, significand
and scale of a bit pattern are those of the IEEE formats, so the order of places is the
IEEE order: a pattern without a place is not a number, it compares with nothing, and the
two zeros share a place. Patterns that are not numbers make the same float, so a comparison
of floats is one of the patterns they were made of. -/
namespace Assay

namespace BinaryFormat

open Float.Model (Format UnpackedFloat)
open Float.Model.UnpackedFloat (Sign isNaNBits pack pack_unpack unpack unpackExponent
  unpackMantissa unpackSign unpack_packedNaN)

/-- The format with the widths of an IEEE format. -/
abbrev ofIeee (spec : Format) : BinaryFormat :=
  ⟨spec.mantissaBitsWithoutImplicit, spec.exponentBits⟩

section Parts

variable {spec : Format} (bits : BitVec spec.numBits)

theorem toNat_unpackMantissa :
    (unpackMantissa bits).toNat = bits.toNat % 2 ^ spec.mantissaBitsWithoutImplicit := by
  have width : spec.mantissaBitsWithoutImplicit - 1 - 0 + 1 = spec.mantissaBitsWithoutImplicit := by
    have := spec.hm
    omega
  simp only [unpackMantissa, BitVec.toNat_cast, BitVec.extractLsb_toNat, Nat.shiftRight_zero, width]

theorem toNat_unpackExponent :
    (unpackExponent bits).toNat =
      bits.toNat / 2 ^ spec.mantissaBitsWithoutImplicit % 2 ^ spec.exponentBits := by
  have width : spec.mantissaBitsWithoutImplicit + spec.exponentBits - 1 -
      spec.mantissaBitsWithoutImplicit + 1 = spec.exponentBits := by
    have := spec.he
    omega
  simp only [unpackExponent, BitVec.toNat_cast, BitVec.extractLsb_toNat,
    Nat.shiftRight_eq_div_pow, width]

theorem toNat_unpackSign :
    (unpackSign bits).toNat = bits.toNat / (ofIeee spec).signPlace := by
  have bound : bits.toNat < (ofIeee spec).signPlace * 2 := by
    calc bits.toNat
        < 2 ^ (1 + spec.exponentBits + spec.mantissaBitsWithoutImplicit) := bits.isLt
      _ = 2 ^ (spec.mantissaBitsWithoutImplicit + spec.exponentBits) * 2 := by
        rw [← pow_succ]
        congr 1
        omega
  simp only [unpackSign, BitVec.toNat_cast, BitVec.extractLsb_toNat, Nat.shiftRight_eq_div_pow,
    Nat.sub_self, Nat.zero_add, pow_one]
  exact Nat.mod_eq_of_lt (Nat.div_lt_of_lt_mul bound)

theorem ofBitVec_unpackSign :
    Sign.ofBitVec (unpackSign bits) =
      if (ofIeee spec).negative bits.toNat then .negative else .positive := by
  have place : 0 < (ofIeee spec).signPlace := Nat.two_pow_pos _
  have zero : unpackSign bits = 0#1 ↔ ¬(ofIeee spec).signPlace ≤ bits.toNat := by
    rw [← BitVec.toNat_inj, toNat_unpackSign, BitVec.toNat_zero, Nat.div_eq_zero_iff_lt place,
      not_le]
  unfold Sign.ofBitVec negative
  simp only [zero, decide_eq_true_eq, ite_not]

theorem magnitude_eq :
    (ofIeee spec).magnitude bits.toNat =
      (unpackExponent bits).toNat * 2 ^ spec.mantissaBitsWithoutImplicit +
        (unpackMantissa bits).toNat := by
  have parts : (ofIeee spec).signPlace =
      2 ^ spec.mantissaBitsWithoutImplicit * 2 ^ spec.exponentBits := pow_add 2 _ _
  rw [toNat_unpackExponent, toNat_unpackMantissa, magnitude, parts, Nat.mod_mul, add_comm, mul_comm]

end Parts

section Fields

variable (format : BinaryFormat) {exponent fraction : Nat}

theorem significand_fields (bound : fraction < 2 ^ format.fractionBits) :
    format.significand (exponent * 2 ^ format.fractionBits + fraction) =
      if exponent = 0 then fraction else 2 ^ format.fractionBits + fraction := by
  unfold significand
  change (if _ < 2 ^ format.fractionBits then _
    else _ % 2 ^ format.fractionBits + 2 ^ format.fractionBits) = _
  rw [Nat.mul_add_mod_of_lt bound]
  by_cases none : exponent = 0
  · simp [none, bound]
  · have reach : 2 ^ format.fractionBits ≤ exponent * 2 ^ format.fractionBits :=
      Nat.le_mul_of_pos_left _ (Nat.pos_of_ne_zero none)
    rw [if_neg (by omega), if_neg none, add_comm]

theorem scale_fields (bound : fraction < 2 ^ format.fractionBits) :
    format.scale (exponent * 2 ^ format.fractionBits + fraction) =
      (max 1 exponent : Nat) - (2 ^ (format.exponentBits - 1) - 1 + format.fractionBits : Nat) := by
  have quotient :
      (exponent * 2 ^ format.fractionBits + fraction) / 2 ^ format.fractionBits = exponent := by
    rw [add_comm, Nat.add_mul_div_right _ _ (Nat.two_pow_pos _), Nat.div_eq_of_lt bound, zero_add]
  unfold scale
  change ((max 1 (_ / 2 ^ format.fractionBits) : Nat) : Int) - _ = _
  rw [quotient]
  rfl

theorem fields_lt_infinity (bound : fraction < 2 ^ format.fractionBits)
    (below : exponent < 2 ^ format.exponentBits - 1) :
    exponent * 2 ^ format.fractionBits + fraction < format.infinity := by
  calc exponent * 2 ^ format.fractionBits + fraction
      < (exponent + 1) * 2 ^ format.fractionBits := by
        rw [Nat.succ_mul]
        omega
    _ ≤ (2 ^ format.exponentBits - 1) * 2 ^ format.fractionBits := Nat.mul_le_mul_right _ below

theorem infinity_pos (wide : 0 < format.exponentBits) : 0 < format.infinity := by
  have power : 1 < 2 ^ format.exponentBits := Nat.one_lt_two_pow wide.ne'
  exact Nat.mul_pos (Nat.sub_pos_of_lt power) (Nat.two_pow_pos _)

end Fields

/-- What a sign and a magnitude stand for. -/
inductive Unpacks (format : BinaryFormat) (sign : Sign) (magnitude : Nat) :
    UnpackedFloat → Prop where
  | notANumber (beyond : format.infinity < magnitude) : Unpacks format sign magnitude .notANumber
  | infinity (last : magnitude = format.infinity) : Unpacks format sign magnitude (.infinity sign)
  | zero (first : magnitude = 0) (below : magnitude < format.infinity) :
      Unpacks format sign magnitude (.zero sign)
  | finite (positive : 0 < magnitude) (below : magnitude < format.infinity)
      {significant : 0 < format.significand magnitude} :
      Unpacks format sign magnitude
        (.finite sign (format.significand magnitude) (format.scale magnitude) significant)

section Unpacking

section Finite

variable {format : BinaryFormat} {sign : Sign} {exponent fraction : Nat}

theorem Unpacks.of_parts {magnitude mantissa : Nat} {scale : Int} (positive : 0 < magnitude)
    (below : magnitude < format.infinity) (significant : 0 < mantissa)
    (mantissa_eq : mantissa = format.significand magnitude)
    (scale_eq : scale = format.scale magnitude) :
    Unpacks format sign magnitude (.finite sign mantissa scale significant) := by
  subst mantissa_eq scale_eq
  exact .finite positive below

theorem unpacks_subnormal (bound : fraction < 2 ^ format.fractionBits) (positive : 0 < fraction)
    (below : 0 < 2 ^ format.exponentBits - 1) :
    Unpacks format sign (0 * 2 ^ format.fractionBits + fraction)
      (.finite sign fraction
        ((0 : Nat) - ((2 ^ (format.exponentBits - 1) - 1 : Nat) + format.fractionBits) + 1)
        positive) := by
  refine .of_parts (by omega) (format.fields_lt_infinity bound below) positive ?_ ?_
  · rw [format.significand_fields bound, if_pos rfl]
  · rw [format.scale_fields bound, max_eq_left (Nat.zero_le 1)]
    omega

theorem unpacks_normal (bound : fraction < 2 ^ format.fractionBits) (positive : exponent ≠ 0)
    (below : exponent < 2 ^ format.exponentBits - 1)
    (significant : 0 < 2 ^ format.fractionBits + fraction) :
    Unpacks format sign (exponent * 2 ^ format.fractionBits + fraction)
      (.finite sign (2 ^ format.fractionBits + fraction)
        (exponent - ((2 ^ (format.exponentBits - 1) - 1 : Nat) + format.fractionBits))
        significant) := by
  have room : 0 < exponent * 2 ^ format.fractionBits :=
    Nat.mul_pos (Nat.pos_of_ne_zero positive) (Nat.two_pow_pos _)
  refine .of_parts (by omega) (format.fields_lt_infinity bound below) significant ?_ ?_
  · rw [format.significand_fields bound, if_neg positive]
  · rw [format.scale_fields bound, max_eq_right (Nat.pos_of_ne_zero positive)]
    omega

end Finite

theorem toNat_leadingOne {width : Nat} (fraction : BitVec width) :
    (1#1 ++ fraction).toNat = 2 ^ width + fraction.toNat := by
  rw [BitVec.toNat_append, ← Nat.shiftLeft_add_eq_or_of_lt fraction.isLt]
  simp [Nat.shiftLeft_eq]

/-- A pattern stands for what the IEEE format says. -/
theorem unpacks_unpack {spec : Format} (bits : BitVec spec.numBits) :
    Unpacks (ofIeee spec) (Sign.ofBitVec (unpackSign bits)) ((ofIeee spec).magnitude bits.toNat)
      (unpack spec bits) := by
  have bound := (unpackMantissa bits).isLt
  have ones : (-BitVec.ofNat spec.exponentBits 1).toNat = 2 ^ spec.exponentBits - 1 := by
    rw [BitVec.neg_one_eq_allOnes, BitVec.toNat_allOnes]
  have fractional (some : unpackMantissa bits ≠ 0#_) : 0 < (unpackMantissa bits).toNat := by
    simpa [BitVec.toNat_pos, BitVec.pos_iff_ne_zero] using some
  rw [magnitude_eq]
  unfold unpack
  dsimp only
  split
  · rename_i all
    have last : (ofIeee spec).infinity =
        (unpackExponent bits).toNat * 2 ^ spec.mantissaBitsWithoutImplicit := by
      rw [all, ones]
      rfl
    split
    · rename_i none
      apply Unpacks.infinity
      rw [last, none]
      rfl
    · rename_i some
      have positive := fractional some
      apply Unpacks.notANumber
      omega
  · rename_i finite
    have below : (unpackExponent bits).toNat < 2 ^ spec.exponentBits - 1 := by
      have limit := (unpackExponent bits).isLt
      have other := mt BitVec.eq_of_toNat_eq finite
      omega
    split
    · rename_i subnormal
      have first : (unpackExponent bits).toNat = 0 := congrArg BitVec.toNat subnormal
      simp only [first] at below ⊢
      split
      · rename_i none
        refine .zero ?_ ((ofIeee spec).fields_lt_infinity bound below)
        simp [none]
      · rename_i some
        exact unpacks_subnormal bound (fractional some) below
    · rename_i normal
      have later : (unpackExponent bits).toNat ≠ 0 := by
        simpa [← BitVec.toNat_inj] using normal
      simp only [toNat_leadingOne]
      exact unpacks_normal bound later below _

end Unpacking

section Order

variable (format : BinaryFormat)

/-- Among magnitudes the scale decides, and the significand where the scales agree. -/
theorem scale_lt_or_significand_lt {m n : Nat} (less : m < n) :
    format.scale m < format.scale n ∨
      format.scale m = format.scale n ∧ format.significand m < format.significand n := by
  have positive : 0 < Nat.pow 2 format.fractionBits := Nat.two_pow_pos _
  unfold scale significand
  generalize Nat.pow 2 format.fractionBits = unit at positive
  have exponents : m / unit ≤ n / unit := Nat.div_le_div_right less.le
  have lower := Nat.div_add_mod' m unit
  have upper := Nat.div_add_mod' n unit
  have fraction := Nat.mod_lt m positive
  have first : m / unit = 0 ↔ m < unit := Nat.div_eq_zero_iff_lt positive
  have second : n / unit = 0 ↔ n < unit := Nat.div_eq_zero_iff_lt positive
  generalize m / unit = low, n / unit = high, m % unit = rest at *
  rcases exponents.eq_or_lt with same | apart
  · -- With one exponent the fractions decide, leading one or not.
    subst same
    right
    split_ifs <;> omega
  · by_cases lowest : high ≤ 1
    · -- Without a leading one the scale is the same as at the first exponent with one.
      right
      split_ifs <;> omega
    · left
      omega

theorem compare_then_compare (m n : Nat) :
    (compare (format.scale m) (format.scale n)).then
      (compare (format.significand m) (format.significand n)) = compare (m : Int) n := by
  rcases lt_trichotomy m n with less | rfl | more
  · rw [compare_lt_iff_lt.mpr (Int.ofNat_lt.mpr less)]
    rcases format.scale_lt_or_significand_lt less with scale | ⟨scale, significand⟩
    · rw [compare_lt_iff_lt.mpr scale]
      rfl
    · rw [compare_eq_iff_eq.mpr scale, compare_lt_iff_lt.mpr significand]
      rfl
  · simp
  · rw [compare_gt_iff_gt.mpr (Int.ofNat_lt.mpr more)]
    rcases format.scale_lt_or_significand_lt more with scale | ⟨scale, significand⟩
    · rw [compare_gt_iff_gt.mpr scale]
      rfl
    · rw [compare_eq_iff_eq.mpr scale.symm, compare_gt_iff_gt.mpr significand]
      rfl

theorem compare_int (i j : Int) :
    compare i j = if i < j then .lt else if i = j then .eq else .gt := rfl

theorem compare_sign (s t : Sign) : compare s t = compare (s.apply 1) (t.apply 1) := by
  cases s <;> cases t <;> rfl

namespace Unpacks

variable {format} {s t : Sign} {m n : Nat} {x y : UnpackedFloat}

theorem eq_notANumber (unpacks : Unpacks format s m x) (beyond : format.infinity < m) :
    x = .notANumber := by
  cases unpacks with
  | notANumber => rfl
  | infinity | zero | finite => omega

theorem isNaN_eq (unpacks : Unpacks format s m x) : x.isNaN = decide (format.infinity < m) := by
  cases unpacks with
  | notANumber beyond => simp [UnpackedFloat.isNaN, beyond]
  | infinity last => simp [UnpackedFloat.isNaN, last]
  | zero first below => simp [UnpackedFloat.isNaN, below.le]
  | finite positive below => simp [UnpackedFloat.isNaN, below.le]

theorem isFinite_eq (unpacks : Unpacks format s m x) :
    x.isFinite = decide (m < format.infinity) := by
  cases unpacks with
  | notANumber beyond => simp [UnpackedFloat.isFinite, beyond.le]
  | infinity last => simp [UnpackedFloat.isFinite, last]
  | zero first below => simp [UnpackedFloat.isFinite, below]
  | finite positive below => simp [UnpackedFloat.isFinite, below]

/-- What is a number compares as its signed magnitude. -/
theorem compare_eq (wide : 0 < format.exponentBits) (inside : m ≤ format.infinity)
    (inside' : n ≤ format.infinity) (one : Unpacks format s m x) (two : Unpacks format t n y) :
    x.compare y = some (compare (s.apply m) (t.apply n)) := by
  have positive := format.infinity_pos wide
  cases one with
  | notANumber => omega
  | infinity =>
    cases two with
    | notANumber => omega
    | infinity =>
      rw [UnpackedFloat.compare, compare_sign, compare_int, compare_int]
      cases s <;> cases t <;> grind [Sign.apply]
    | zero | finite =>
      cases s <;> cases t <;> grind [UnpackedFloat.compare, Sign.apply, compare_int]
  | zero =>
    cases two with
    | notANumber => omega
    | infinity | zero | finite =>
      cases s <;> cases t <;> grind [UnpackedFloat.compare, Sign.apply, compare_int]
  | finite =>
    cases two with
    | notANumber => omega
    | infinity | zero =>
      cases s <;> cases t <;> grind [UnpackedFloat.compare, Sign.apply, compare_int]
    | finite =>
      -- Only here do two magnitudes meet, and only when the signs agree.
      cases s <;> cases t <;>
        grind [UnpackedFloat.compare, Sign.apply, compare_int, compare_then_compare, Ordering.swap]

end Unpacks

end Order

section Keys

variable {spec : Format} (bits others : BitVec spec.numBits)

theorem orderKey_eq :
    (ofIeee spec).orderKey bits.toNat =
      if (ofIeee spec).infinity < (ofIeee spec).magnitude bits.toNat then none
      else some ((Sign.ofBitVec (unpackSign bits)).apply ((ofIeee spec).magnitude bits.toNat)) := by
  unfold orderKey
  rw [ofBitVec_unpackSign]
  cases (ofIeee spec).negative bits.toNat with
  | true => rfl
  | false => rfl

theorem isNaN_unpack : (unpack spec bits).isNaN = ((ofIeee spec).orderKey bits.toNat).isNone := by
  rw [(unpacks_unpack bits).isNaN_eq, orderKey_eq]
  split <;> simp_all

theorem isFinite_unpack :
    (unpack spec bits).isFinite =
      decide ((ofIeee spec).magnitude bits.toNat < (ofIeee spec).infinity) :=
  (unpacks_unpack bits).isFinite_eq

/-- Patterns compare as their places do. -/
theorem compare_unpack :
    (unpack spec bits).compare (unpack spec others) =
      Option.map₂ compare ((ofIeee spec).orderKey bits.toNat)
        ((ofIeee spec).orderKey others.toNat) := by
  have one := unpacks_unpack bits
  have two := unpacks_unpack others
  rw [orderKey_eq, orderKey_eq]
  by_cases beyond : (ofIeee spec).infinity < (ofIeee spec).magnitude bits.toNat
  · rw [one.eq_notANumber beyond, if_pos beyond]
    rfl
  · by_cases beyond' : (ofIeee spec).infinity < (ofIeee spec).magnitude others.toNat
    · rw [two.eq_notANumber beyond', if_pos beyond', Option.map₂_none_right]
      cases unpack spec bits <;> rfl
    · rw [one.compare_eq spec.he (not_lt.mp beyond) (not_lt.mp beyond') two, if_neg beyond,
        if_neg beyond', Option.map₂_some_some]

theorem lt_unpack :
    (unpack spec bits).lt (unpack spec others) = true ↔
      ∃ i j, (ofIeee spec).orderKey bits.toNat = some i ∧
        (ofIeee spec).orderKey others.toNat = some j ∧ i < j := by
  rw [UnpackedFloat.lt, compare_unpack, beq_iff_eq, Option.map₂_eq_some_iff]
  simp only [Option.mem_def, compare_lt_iff_lt]

theorem beq_unpack :
    (unpack spec bits).beq (unpack spec others) = true ↔
      ∃ i, (ofIeee spec).orderKey bits.toNat = some i ∧
        (ofIeee spec).orderKey others.toNat = some i := by
  rw [UnpackedFloat.beq, compare_unpack, beq_iff_eq, Option.map₂_eq_some_iff]
  simp only [Option.mem_def, compare_eq_iff_eq]
  constructor
  · rintro ⟨i, j, one, two, rfl⟩
    exact ⟨i, one, two⟩
  · rintro ⟨i, one, two⟩
    exact ⟨i, i, one, two, rfl⟩

/-- Packing brings all patterns that are not numbers to one, and leaves every other. -/
theorem unpack_pack_unpack (wide : 2 ≤ spec.exponentBits) :
    unpack spec (pack spec (unpack spec bits)) = unpack spec bits := by
  rw [pack_unpack bits wide]
  split
  · rename_i outside
    rw [unpack_packedNaN, eq_comm, ← UnpackedFloat.isNaN_iff]
    simp only [isNaNBits, ne_eq, decide_eq_true_eq] at outside
    simp [unpack, outside, UnpackedFloat.isNaN]
  · rfl

theorem lt_packed (wide : 2 ≤ spec.exponentBits) :
    (unpack spec (pack spec (unpack spec bits))).lt
        (unpack spec (pack spec (unpack spec others))) = true ↔
      ∃ i j, (ofIeee spec).orderKey bits.toNat = some i ∧
        (ofIeee spec).orderKey others.toNat = some j ∧ i < j := by
  rw [unpack_pack_unpack bits wide, unpack_pack_unpack others wide, lt_unpack]

theorem isNaN_packed (wide : 2 ≤ spec.exponentBits) :
    (unpack spec (pack spec (unpack spec bits))).isNaN =
      ((ofIeee spec).orderKey bits.toNat).isNone := by
  rw [unpack_pack_unpack bits wide, isNaN_unpack]

end Keys

end BinaryFormat

theorem BinaryFormat.isFinite_float (x : Float) :
    x.isFinite = decide (binary64.magnitude x.toBits.toNat < binary64.infinity) :=
  @isFinite_unpack Float.Model.Format.binary64 x.toBits.toBitVec

namespace OrderKey

open Float.Model.Format (binary32 binary64)

theorem less_binary64_iff (x y : BinaryFormat.binary64.Pattern) :
    less x y = true ↔ x.toFloat < y.toFloat := by
  have places := @BinaryFormat.lt_packed binary64 x.bits y.bits (by decide)
  have ieee : x.toFloat < y.toFloat ↔ ∃ i j, key x = some i ∧ key y = some j ∧ i < j :=
    Iff.trans decide_eq_true_iff places
  rw [less_eq_true_iff, ieee]

theorem less_binary32_iff (x y : BinaryFormat.binary32.Pattern) :
    less x y = true ↔ x.toFloat32 < y.toFloat32 := by
  have places := @BinaryFormat.lt_packed binary32 x.bits y.bits (by decide)
  have ieee : x.toFloat32 < y.toFloat32 ↔ ∃ i j, key x = some i ∧ key y = some j ∧ i < j :=
    Iff.trans decide_eq_true_iff places
  rw [less_eq_true_iff, ieee]

theorem same_float_iff (x y : Float) : same x y = true ↔ (x == y) = true := by
  have places := @BinaryFormat.beq_unpack binary64 x.toBits.toBitVec y.toBits.toBitVec
  rw [same_eq_true_iff]
  exact places.symm

theorem isNone_key_float (x : Float) : (key x).isNone = x.isNaN :=
  (@BinaryFormat.isNaN_unpack binary64 x.toBits.toBitVec).symm

theorem isNone_key_binary64 (x : BinaryFormat.binary64.Pattern) :
    (key x).isNone = x.toFloat.isNaN :=
  (@BinaryFormat.isNaN_packed binary64 x.bits (by decide)).symm

theorem isNone_key_binary32 (x : BinaryFormat.binary32.Pattern) :
    (key x).isNone = x.toFloat32.isNaN :=
  (@BinaryFormat.isNaN_packed binary32 x.bits (by decide)).symm

end OrderKey

end Assay
