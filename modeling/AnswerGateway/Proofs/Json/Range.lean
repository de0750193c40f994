import AnswerGateway.Json.Numeral
import Mathlib

/-!
How large a number is made of the digits and the exponent of a numeral. Only the exponents of the
factors matter: a mantissa never has more than 53 bits, so a product whose factors have small
exponents is no infinity, however it is rounded.
-/

namespace AnswerGateway.Json

open Float.Model Float.Model.UnpackedFloat

namespace Rounding

theorem mantissa_shiftRight (m : ExtendedMantissa) (count : Nat) :
    (m >>> count).mantissa = m.mantissa / 2 ^ count := by
  induction count with
  | zero =>
      rw [Nat.pow_zero, Nat.div_one]
      rfl
  | succ count ih =>
      change (m >>> count).mantissa / 2 = _
      rw [ih, Nat.div_div_eq_div_mul, Nat.pow_succ]

theorem roundedMantissa_le (m : ExtendedMantissa) : m.roundedMantissa ≤ m.mantissa + 1 := by
  obtain ⟨mantissa, round, sticky⟩ := m
  cases round <;> cases sticky <;>
    simp only [ExtendedMantissa.roundedMantissa, ExtendedMantissa.accuracy,
      Accuracy.roundToNearestEven] <;> omega

theorem ofMantissaAndAccuracy_mantissa (m : Nat) (a : Accuracy) :
    (ExtendedMantissa.ofMantissaAndAccuracy m a).mantissa = m := by
  cases a with
  | exact => rfl
  | inexact o => cases o <;> rfl

theorem log2_le {m bits : Nat} (fits : m < 2 ^ (bits + 1)) : m.log2 ≤ bits := by
  by_cases zero : m = 0
  · rw [zero, Nat.log2_zero]
    exact Nat.zero_le bits
  · exact Nat.le_of_lt_succ ((Nat.log2_lt zero).mpr fits)

/-- Where a mantissa is brought to: to 53 bits, or to the least exponent that there is. -/
theorem shift_eq (m : Nat) (e : Int) (a : Accuracy) :
    let shifted := shiftToTargetExponent Format.binary64 m e a
    shifted.2 = max e (max (m.log2 + e - 52) (-1074)) ∧
      shifted.1.mantissa = m / 2 ^ (shifted.2 - e).toNat := by
  have target : Format.binary64.targetExponent (totalExponent m e) =
      max (m.log2 + e - 52) (-1074) := by
    have power : (2 : Int) ^ (11 - 1) = 1024 := rfl
    simp only [Format.targetExponent, totalExponent, Format.mantissaBits, Format.minExponent, power]
    omega
  simp only [shiftToTargetExponent, shiftToExponent, mantissa_shiftRight,
    ofMantissaAndAccuracy_mantissa, target]
  constructor
  · omega
  · congr 2
    omega

/-- What is left of a mantissa has 53 bits, or fewer at the least exponent. -/
theorem mantissa_div_lt (m : Nat) (e : Int) :
    m / 2 ^ (max e (max (m.log2 + e - 52) (-1074)) - e).toNat < 2 ^ 53 := by
  rw [Nat.div_lt_iff_lt_mul (Nat.two_pow_pos _), ← Nat.pow_add]
  refine Nat.lt_of_lt_of_le Nat.lt_log2_self (Nat.pow_le_pow_right (by decide) ?_)
  omega

/-- Whether a number is finite and its exponent no larger than this. -/
def Within (limit : Int) : UnpackedFloat → Prop
  | .zero _ => True
  | .finite _ _ e _ => e ≤ limit
  | .infinity _ | .notANumber => False

theorem Within.isInf {limit : Int} {x : UnpackedFloat} (h : Within limit x) : x.isInf = false := by
  cases x with
  | infinity => cases h
  | notANumber | zero | finite => rfl

/-- A rounded number has an exponent that is at most one above the one that its bits ask for. -/
theorem within_roundWithAccuracy {limit e : Int} {m : Nat} (s : Sign) (a : Accuracy)
    (least : -1074 < limit) (exponent : e < limit) (bits : m.log2 + e - 52 < limit) :
    Within limit (roundWithAccuracy Format.binary64 s m e a) := by
  obtain ⟨first, mantissa⟩ := shift_eq m e a
  have small := mantissa_div_lt m e
  rw [first] at mantissa
  rw [← mantissa] at small
  have bound := roundedMantissa_le (shiftToTargetExponent Format.binary64 m e a).1
  unfold roundWithAccuracy
  generalize shiftToTargetExponent Format.binary64 m e a = shifted at *
  obtain ⟨n, f⟩ := shifted
  obtain ⟨second, -⟩ := shift_eq n.roundedMantissa f .exact
  simp only at first small bound
  have few : n.roundedMantissa.log2 ≤ 53 := log2_le (by omega)
  simp only
  split
  · trivial
  · rw [Within, second]
    omega

/-- A number of 64 bits, rounded, has an exponent of at most twelve. -/
theorem within_ofUInt64 (n : UInt64) : Within 12 (UnpackedFloat.ofUInt64 Format.binary64 n) := by
  have bound := n.toNat_lt
  have positive : (0 : Int) ≤ n.toNat := Int.natCast_nonneg _
  unfold UnpackedFloat.ofUInt64 UnpackedFloat.ofNat UnpackedFloat.ofInt UnpackedFloat.normalize
  split
  · rename_i less
    rw [Int.compare_eq_lt] at less
    omega
  · trivial
  · unfold UnpackedFloat.round
    generalize Format.binary64.targetExponent _ = target
    have fits : n.toNat <<< (0 - target).toNat < 2 ^ (63 + (0 - target).toNat + 1) := by
      rw [Nat.shiftLeft_eq, Nat.add_right_comm, Nat.pow_add]
      exact Nat.mul_lt_mul_of_pos_right bound (Nat.two_pow_pos _)
    have bits := log2_le fits
    exact within_roundWithAccuracy _ _ (by decide) (by omega) (by rw [Int.toNat_natCast]; omega)

/-- The exponent of a double as it is stored. -/
def storedExponent (x : Float) : Nat :=
  (@unpackExponent Format.binary64 x.toModel.toBits.toBitVec).toNat

section

variable {limit : Int}

theorem storedExponent_pack {u : UnpackedFloat} (h : Within limit u) (least : -1075 ≤ limit)
    (most : limit ≤ 971) : (storedExponent (.ofModel (pack u)) : Int) ≤ limit + 1075 := by
  have bias : (Format.binary64.exponentBias : Int) + 52 = 1075 := rfl
  have packs : storedExponent (.ofModel (pack u)) =
      (unpackExponent (UnpackedFloat.pack Format.binary64 u)).toNat := rfl
  rw [packs]
  cases u with
  | infinity => cases h
  | notANumber => cases h
  | zero s =>
      rw [UnpackedFloat.pack, packedZero, unpackExponent_packComponents]
      change (0 : Int) ≤ _
      omega
  | finite s m e positive =>
      change e ≤ limit at h
      have small : ¬2 ^ 11 ≤ (e + Format.binary64.exponentBias + (52 : Nat)).toNat + 1 := by omega
      simp only [UnpackedFloat.pack, if_neg small]
      split
      · rw [unpackExponent_packComponents, BitVec.toNat_ofNat]
        have less := Nat.mod_le (e + Format.binary64.exponentBias + (52 : Nat)).toNat (2 ^ 11)
        omega
      · rw [unpackExponent_packComponents]
        change (0 : Int) ≤ _
        omega

theorem within_unpack {x : Float} (exponent : (storedExponent x : Int) ≤ limit + 1075)
    (least : -1074 ≤ limit) (most : limit ≤ 971) : Within limit x.toModel.unpack := by
  unfold storedExponent at exponent
  have other : @unpackExponent Format.binary64 x.toModel.toBits.toBitVec ≠ -1#_ := by
    intro ones
    rw [ones] at exponent
    change ((2047 : Nat) : Int) ≤ limit + 1075 at exponent
    omega
  have bias : (Format.binary64.exponentBias : Int) + 52 = 1075 := rfl
  simp only [Float.Model.unpack, UnpackedFloat.unpack, if_neg other]
  split
  · split
    · trivial
    · rename_i zero some
      rw [zero]
      change (0 : Int) - 1075 + 1 ≤ limit
      omega
  · change (_ : Int) - (Format.binary64.exponentBias + 52) ≤ limit
    omega

end

/-- A mantissa has 53 bits. -/
theorem mantissa_lt {x : Float} {s : Sign} {m : Nat} {e : Int} {positive : 0 < m}
    (unpacks : x.toModel.unpack = .finite s m e positive) : m < 2 ^ 53 := by
  simp only [Float.Model.unpack, UnpackedFloat.unpack] at unpacks
  split at unpacks
  · split at unpacks <;> cases unpacks
  · split at unpacks
    · split at unpacks
      · cases unpacks
      · cases unpacks
        exact Nat.lt_trans (BitVec.isLt _) (by decide)
    · cases unpacks
      exact BitVec.isLt _

/-- A product whose factors have small exponents is not infinite. -/
theorem isInf_mul {x y : Float} {a b : Int} (hx : Within a x.toModel.unpack)
    (hy : Within b y.toModel.unpack) (least : -1000 ≤ a + b) (most : a + b ≤ 910) :
    (x * y).isInf = false := by
  have product : Within (a + b + 55)
      (UnpackedFloat.mul Format.binary64 x.toModel.unpack y.toModel.unpack) := by
    have first := @mantissa_lt x
    have second := @mantissa_lt y
    generalize x.toModel.unpack = u at *
    generalize y.toModel.unpack = v at *
    cases u with
    | infinity => cases hx
    | notANumber => cases hx
    | zero s =>
        cases v with
        | infinity => cases hy
        | notANumber => cases hy
        | zero | finite => trivial
    | finite s m e positive =>
        cases v with
        | infinity => cases hy
        | notANumber => cases hy
        | zero => trivial
        | finite t n f positive' =>
            change e ≤ a at hx
            change f ≤ b at hy
            have fits : m * n < 2 ^ 53 * 2 ^ 53 :=
              Nat.mul_lt_mul_of_lt_of_lt (first rfl) (second rfl)
            rw [← Nat.pow_add] at fits
            have bits := log2_le fits
            exact within_roundWithAccuracy _ _ (by omega) (by omega) (by omega)
  have stored := storedExponent_pack product (by omega) (by omega)
  exact (within_unpack stored (by omega) (by omega)).isInf

end Rounding

open Rounding

theorem storedExponent_small : ∀ n < 23, storedExponent (powerOfTen n) ≤ 1960 := by
  decide +kernel

/-- Three powers of ten take no more than ten bits. -/
theorem log2_ten_pow_le {n k : Nat} (few : n ≤ 3 * k) : (1 <<< 53 * 10 ^ n).log2 ≤ 53 + 10 * k := by
  apply log2_le
  calc 1 <<< 53 * 10 ^ n = 2 ^ 53 * 10 ^ n := by rw [Nat.one_shiftLeft]
    _ ≤ 2 ^ 53 * 10 ^ (3 * k) := Nat.mul_le_mul_left _ (Nat.pow_le_pow_right (by decide) few)
    _ = 2 ^ 53 * (10 ^ 3) ^ k := by rw [Nat.pow_mul]
    _ ≤ 2 ^ 53 * (2 ^ 10) ^ k := Nat.mul_le_mul_left _ (Nat.pow_le_pow_left (by decide) k)
    _ = 2 ^ (53 + 10 * k) := by rw [← Nat.pow_mul, ← Nat.pow_add]
    _ < 2 ^ (53 + 10 * k + 1) := Nat.pow_lt_pow_right (by decide) (Nat.lt_succ_self _)

/-- A power of ten, rounded. -/
theorem within_ofScientific {n : Nat} (fits : n ≤ 280) :
    Within 890 (UnpackedFloat.ofScientific Format.binary64 1 n) := by
  have bits : (1 <<< 53 * 10 ^ n).log2 ≤ 53 + 10 * 94 := log2_ten_pow_le (by omega)
  have notLarge : ¬(n : Int) > 2 ^ 11 := by omega
  have notSmall : ¬(n : Int) < -((2 ^ 11 : Int) + Nat.log2 1) := by omega
  have natural : 0 ≤ (n : Int) := Int.natCast_nonneg n
  unfold UnpackedFloat.ofScientific
  rw [dif_neg Nat.one_ne_zero, if_neg notLarge, if_neg notSmall, if_pos natural]
  have exponent : ((1 <<< 53 * 10 ^ n).log2 : Int) + (-53 + 0) - 52 < 890 := by omega
  exact within_roundWithAccuracy _ _ (by decide) (by decide) exponent

theorem within_powerOfTen {n : Nat} (fits : n ≤ 280) :
    Within 890 (powerOfTen n).toModel.unpack := by
  have stored : (storedExponent (powerOfTen n) : Int) ≤ 890 + 1075 := by
    by_cases small : n < 23
    · have table := storedExponent_small n small
      omega
    · have slow : ¬(1 < 2 ^ 53 ∧ n ≤ 22) := by omega
      rw [powerOfTen, Float.ofScientific, dif_neg slow]
      exact storedExponent_pack (within_ofScientific fits) (by decide) (by decide)
  exact within_unpack stored (by decide) (by decide)

/-- Any 64-bit number times a power of ten of up to 280 fits a double. -/
theorem isInf_mul_powerOfTen (v : UInt64) {n : Nat} (fits : n ≤ 280) :
    (v.toFloat * powerOfTen n).isInf = false := by
  have number := storedExponent_pack (within_ofUInt64 v) (by decide) (by decide)
  have first : Within 12 v.toFloat.toModel.unpack :=
    within_unpack number (by decide) (by decide)
  exact isInf_mul first (within_powerOfTen fits) (by decide) (by decide)

end AnswerGateway.Json
