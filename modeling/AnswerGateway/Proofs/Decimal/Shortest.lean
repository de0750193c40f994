import AnswerGateway.Decimal.Binary
import Mathlib

/-!
How many digits the shortest digits of a single-precision number can have, and how large their
exponent can be. The search ends on one of its grids with a point of the interval, or on the last
grid, which is so fine that the number itself has digits there; either way the digits do not vanish.
-/

namespace AnswerGateway.Decimal

variable {i : Interval} {n : Nat}

/-- A point of the interval is next to the number, and is not zero. -/
theorem Interval.nearest?_bounds (found : i.nearest? = some n) (low : 0 < i.low) :
    0 < n ∧ n ≤ i.value + 1 := by
  have inside : i.holds n = true ∧ (n = i.value / i.scale ∨ n = i.value / i.scale + 1) := by
    unfold Interval.nearest? at found
    simp only at found
    split at found
    · split at found
      · cases found
        exact ⟨by assumption, .inl rfl⟩
      · cases found
        exact ⟨by assumption, .inr rfl⟩
    · cases found
      exact ⟨by assumption, .inl rfl⟩
    · cases found
      exact ⟨by assumption, .inr rfl⟩
    · cases found
  obtain ⟨holds, next⟩ := inside
  constructor
  · apply Nat.pos_of_ne_zero
    rintro rfl
    unfold Interval.holds at holds
    rw [Nat.zero_mul] at holds
    split at holds
    · have lowest := of_decide_eq_true (Bool.and_eq_true_iff.mp holds).1
      omega
    · have lowest := of_decide_eq_true (Bool.and_eq_true_iff.mp holds).1
      omega
  · have less := Nat.div_le_self i.value i.scale
    omega

/-- The search ends on one of its grids, with a point of the interval or on the last one. -/
theorem searchGrids_ends (i : Interval) (fuel : Nat) (e : Int) :
    ∃ k ≤ fuel, (searchGrids i fuel e).exponent = e - k ∧
      ((i.inUnits (e - k)).nearest? = some (searchGrids i fuel e).digits ∨
        k = fuel ∧ (searchGrids i fuel e).digits =
          (i.inUnits (e - k)).value / (i.inUnits (e - k)).scale) := by
  induction fuel generalizing e with
  | zero =>
      refine ⟨0, Nat.le_refl 0, ?_, .inr ⟨rfl, ?_⟩⟩
      · exact (Int.sub_zero e).symm
      · rw [Int.natCast_zero, Int.sub_zero, searchGrids]
  | succ fuel ih =>
      rw [searchGrids]
      split
      · rename_i n found
        refine ⟨0, Nat.zero_le _, (Int.sub_zero e).symm, .inl ?_⟩
        rw [Int.natCast_zero, Int.sub_zero, found]
      · obtain ⟨k, within, exponent, digits⟩ := ih (e - 1)
        have grid : e - 1 - (k : Int) = e - ((k + 1 : Nat) : Int) := by omega
        rw [grid] at exponent digits
        refine ⟨k + 1, Nat.succ_le_succ within, exponent, ?_⟩
        rcases digits with point | ⟨last, quotient⟩
        · exact .inl point
        · exact .inr ⟨by rw [last], quotient⟩

/-- The magnitudes of the finite single-precision numbers. -/
structure Magnitude.Single (x : Magnitude) : Prop where
  positive : 0 < x.m
  bits : x.m < 2 ^ 24
  least : -149 ≤ x.q
  most : x.q ≤ 104

namespace Magnitude.Single

variable {x : Magnitude} (h : x.Single)
include h

theorem low_pos (e : Int) : 0 < (x.interval.inUnits e).low := by
  have positive := h.positive
  have below : 0 < 4 * x.m - if x.tight then 1 else 2 := by
    split <;> omega
  exact Nat.mul_pos (Nat.mul_pos below (Nat.two_pow_pos _)) (Nat.pow_pos (by decide))

/-- The place of the first bit of the number. -/
theorem log_bounds : -149 ≤ (x.m.log2 : Int) + x.q ∧ (x.m.log2 : Int) + x.q ≤ 127 := by
  have bits : x.m.log2 < 24 := (Nat.log2_lt (Nat.pos_iff_ne_zero.mp h.positive)).mpr h.bits
  have least := h.least
  have most := h.most
  omega

theorem order_bounds : -44 ≤ x.order ∧ x.order ≤ 39 := by
  obtain ⟨least, most⟩ := h.log_bounds
  unfold Magnitude.order
  omega

theorem value_lt {e : Int} (fine : -68 ≤ e) : (x.interval.inUnits e).value + 1 < 10 ^ 107 := by
  have bits := h.bits
  have most := h.most
  have two : 2 ^ (x.q - 2).toNat ≤ 2 ^ 102 := Nat.pow_le_pow_right (by decide) (by omega)
  have ten : 10 ^ (-e).toNat ≤ 10 ^ 68 := Nat.pow_le_pow_right (by decide) (by omega)
  have quarters : 4 * x.m ≤ 2 ^ 26 := by omega
  calc (x.interval.inUnits e).value + 1
      = 4 * x.m * 2 ^ (x.q - 2).toNat * 10 ^ (-e).toNat + 1 := rfl
    _ ≤ 2 ^ 26 * 2 ^ 102 * 10 ^ 68 + 1 :=
        Nat.succ_le_succ (Nat.mul_le_mul (Nat.mul_le_mul quarters two) ten)
    _ < 10 ^ 107 := by decide

end Magnitude.Single

/-- The last of the grids is as fine as the place of the first bit of a number, wherever it is. -/
theorem grid_fine : ∀ k : Nat, k < 277 →
    2 ^ (149 - k : Int).toNat * 10 ^ ((k - 148 : Int) * 1233 / 4096 - 23).toNat ≤
      2 ^ (k - 149 : Int).toNat * 10 ^ (23 - (k - 148 : Int) * 1233 / 4096).toNat := by
  decide +kernel

namespace Magnitude.Single

variable {x : Magnitude} (h : x.Single)
include h

/-- On the last of the grids the number is at least one. -/
theorem scale_le_value : (x.interval.inUnits (x.order - 24)).scale ≤
    (x.interval.inUnits (x.order - 24)).value := by
  obtain ⟨least, most⟩ := h.log_bounds
  have first : 2 ^ x.m.log2 ≤ x.m := Nat.log2_self_le (Nat.pos_iff_ne_zero.mp h.positive)
  obtain ⟨k, bit⟩ : ∃ k : Nat, (x.m.log2 : Int) + x.q = k - 149 :=
    ⟨((x.m.log2 : Int) + x.q + 149).toNat, by omega⟩
  have grid : x.order - 24 = (k - 148 : Int) * 1233 / 4096 - 23 := by
    unfold Magnitude.order
    rw [bit]
    omega
  have finer : -(x.order - 24) = 23 - (k - 148 : Int) * 1233 / 4096 := by
    rw [grid, Int.neg_sub]
  have fine := grid_fine k (by omega)
  change 2 ^ (-(x.q - 2)).toNat * 10 ^ (x.order - 24).toNat ≤
    4 * x.m * 2 ^ (x.q - 2).toNat * 10 ^ (-(x.order - 24)).toNat
  rw [finer, grid]
  -- The powers of two, with the place of the first bit on either side.
  have same : 2 ^ (149 - k : Int).toNat * (4 * 2 ^ x.m.log2 * 2 ^ (x.q - 2).toNat) =
      2 ^ (k - 149 : Int).toNat * 2 ^ (-(x.q - 2)).toNat := by
    have four : 4 = 2 ^ 2 := rfl
    rw [four, ← Nat.pow_add, ← Nat.pow_add, ← Nat.pow_add, ← Nat.pow_add]
    congr 1
    omega
  generalize 10 ^ ((k - 148 : Int) * 1233 / 4096 - 23).toNat = coarse at *
  generalize 10 ^ (23 - (k - 148 : Int) * 1233 / 4096).toNat = units at *
  generalize 2 ^ (x.q - 2).toNat = up at *
  generalize 2 ^ (-(x.q - 2)).toNat = down at *
  have positive : 0 < 2 ^ (149 - k : Int).toNat := Nat.two_pow_pos _
  generalize 2 ^ (149 - k : Int).toNat = left at *
  generalize 2 ^ (k - 149 : Int).toNat = right at *
  refine Nat.le_of_mul_le_mul_left ?_ positive
  calc left * (down * coarse)
      = left * coarse * down := by rw [Nat.mul_comm down, Nat.mul_assoc]
    _ ≤ right * units * down := Nat.mul_le_mul_right _ fine
    _ = left * (4 * 2 ^ x.m.log2 * up) * units := by rw [same, Nat.mul_right_comm]
    _ ≤ left * (4 * x.m * up) * units :=
        Nat.mul_le_mul_right _ (Nat.mul_le_mul_left _
          (Nat.mul_le_mul_right _ (Nat.mul_le_mul_left _ first)))
    _ = left * (4 * x.m * up * units) := Nat.mul_assoc _ _ _

theorem shortest_bounds : 0 < x.shortest.digits ∧ x.shortest.digits < 10 ^ 107 ∧
    -68 ≤ x.shortest.exponent ∧ x.shortest.exponent ≤ 39 := by
  obtain ⟨least, most⟩ := h.order_bounds
  obtain ⟨k, within, exponent, digits⟩ := searchGrids_ends x.interval 24 x.order
  change x.shortest.exponent = _ at exponent
  have limit := h.value_lt (e := x.order - k) (by omega)
  have bounds : 0 < x.shortest.digits ∧
      x.shortest.digits ≤ (x.interval.inUnits (x.order - k)).value + 1 := by
    rcases digits with point | ⟨rfl, quotient⟩
    · exact Interval.nearest?_bounds point (h.low_pos _)
    · change x.shortest.digits = _ at quotient
      rw [quotient]
      have positive : 0 < (x.interval.inUnits (x.order - 24)).scale :=
        Nat.mul_pos (Nat.two_pow_pos _) (Nat.pow_pos (by decide))
      exact ⟨Nat.div_pos h.scale_le_value positive, Nat.le_succ_of_le (Nat.div_le_self _ _)⟩
  omega

end Magnitude.Single

/-- What is read of the bits of a single-precision number, if it is finite and not zero. -/
theorem readSingle_single {x : Float32} {negative : Bool} {magnitude : Magnitude}
    (reads : readSingle x = .finite negative magnitude) : magnitude.Single := by
  unfold readSingle readBits at reads
  simp only at reads
  split at reads
  · split at reads <;> cases reads
  · rename_i special
    have fraction := Nat.mod_lt x.toBits.toNat (by decide : 0 < Nat.pow 2 23)
    have biased := Nat.mod_lt (x.toBits.toNat / Nat.pow 2 23) (by decide : 0 < Nat.pow 2 8)
    generalize x.toBits.toNat % Nat.pow 2 23 = f at *
    generalize x.toBits.toNat / Nat.pow 2 23 % Nat.pow 2 8 = b at *
    have hidden : Nat.pow 2 23 = 8388608 := rfl
    have limit : Nat.pow 2 8 = 256 := rfl
    have least : ((Nat.pow 2 (8 - 1) : Nat) : Int) = 128 := rfl
    rw [hidden] at reads fraction
    rw [limit] at special biased
    rw [least] at reads
    simp only [beq_iff_eq] at special
    split at reads
    · split at reads
      · cases reads
      · rename_i some
        simp only [beq_iff_eq] at some
        cases reads
        constructor <;> simp only <;> omega
    · rename_i normal
      simp only [beq_iff_eq] at normal
      cases reads
      constructor <;> simp only <;> omega

end AnswerGateway.Decimal
