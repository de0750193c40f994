import AnswerGateway.Embedding.Similarity
import Mathlib.Algebra.Order.Group.Int
import Mathlib.Data.Prod.Lex

/-!
How likenesses are ordered. Single-precision numbers that are numbers are compared as their ranks
are, so among them any two can be compared; what is not a number is neither above nor below
anything. Nothing is assumed of the comparison: it is the one of the standard, and its ranks are
read off the unpacked form of a number.
-/

namespace AnswerGateway

open Float.Model (UnpackedFloat)

/-- The kind of a number (infinite, finite and so on, from below), its exponent and its mantissa. -/
abbrev Rank := ℤ ×ₗ ℤ ×ₗ ℤ

namespace Rank

def of (kind exponent mantissa : ℤ) : Rank := toLex (kind, toLex (exponent, mantissa))

/-- The kinds decide first, then the exponents, then the mantissas. -/
theorem compare_eq_then (r q : Rank) :
    compare r q = (compare (ofLex r).1 (ofLex q).1).then
      ((compare (ofLex (ofLex r).2).1 (ofLex (ofLex q).2).1).then
        (compare (ofLex (ofLex r).2).2 (ofLex (ofLex q).2).2)) := by
  simp only [Prod.Lex.compare_def]
  rfl

/-- The rank of an unpacked number. Below zero, larger exponents and mantissas rank lower. -/
def ofUnpacked : UnpackedFloat → Rank
  | .notANumber => of (-3) 0 0
  | .infinity .negative => of (-2) 0 0
  | .finite .negative mantissa exponent _ => of (-1) (-exponent) (-mantissa)
  | .zero _ => of 0 0 0
  | .finite .positive mantissa exponent _ => of 1 exponent mantissa
  | .infinity .positive => of 2 0 0

private theorem compare_neg_neg (a b : ℤ) : compare (-a) (-b) = (compare a b).swap := by
  rw [← Std.OrientedCmp.eq_swap]
  rcases lt_trichotomy a b with h | rfl | h
  · rw [compare_gt_iff_gt.mpr (show -a > -b by omega), compare_gt_iff_gt.mpr (show b > a from h)]
  · rw [compare_eq_iff_eq.mpr rfl, compare_eq_iff_eq.mpr rfl]
  · rw [compare_lt_iff_lt.mpr (show -a < -b by omega), compare_lt_iff_lt.mpr (show b < a from h)]

private theorem compare_natCast (a b : ℕ) : compare (a : ℤ) (b : ℤ) = compare a b := by
  rcases lt_trichotomy a b with h | rfl | h
  · rw [compare_lt_iff_lt.mpr (show (a : ℤ) < b by omega), compare_lt_iff_lt.mpr h]
  · rw [compare_eq_iff_eq.mpr rfl, compare_eq_iff_eq.mpr rfl]
  · rw [compare_gt_iff_gt.mpr (show (a : ℤ) > b by omega), compare_gt_iff_gt.mpr h]

/-- Two unpacked numbers are compared as their ranks are. -/
theorem compare_ofUnpacked {a b : UnpackedFloat} (ha : a.isNaN = false) (hb : b.isNaN = false) :
    a.compare b = some (compare (ofUnpacked a) (ofUnpacked b)) := by
  rw [compare_eq_then]
  cases a with
  | notANumber => cases ha
  | infinity s =>
      cases b with
      | notANumber => cases hb
      | infinity t | zero t | finite t n f => cases s <;> cases t <;> rfl
  | zero s =>
      cases b with
      | notANumber => cases hb
      | infinity t | zero t | finite t n f => cases t <;> rfl
  | finite s m e =>
      cases b with
      | notANumber => cases hb
      | infinity t | zero t => cases s <;> cases t <;> rfl
      | finite t n f =>
          -- Of one sign, the exponents decide before the mantissas do.
          cases s with
          | positive =>
              cases t with
              | positive =>
                  change _ = some ((compare e f).then (compare (m : ℤ) (n : ℤ)))
                  rw [compare_natCast]
                  rfl
              | negative => rfl
          | negative =>
              cases t with
              | positive => rfl
              | negative =>
                  change _ = some ((compare (-e) (-f)).then (compare (-(m : ℤ)) (-(n : ℤ))))
                  rw [compare_neg_neg, compare_neg_neg, compare_natCast, ← Ordering.swap_then]
                  rfl

end Rank

namespace Score

/-- The place of a score among all scores. -/
def rank (x : Float32) : Rank := .ofUnpacked x.toModel.unpack

theorem compare_eq_none {a b : UnpackedFloat} (h : a.isNaN = true ∨ b.isNaN = true) :
    a.compare b = none := by
  rcases h with first | second
  · cases a with
    | notANumber => rfl
    | infinity | zero | finite => cases first
  · cases b with
    | notANumber => cases a <;> rfl
    | infinity | zero | finite => cases second

variable {x y z : Float32}

theorem isNaN_of_compare {o : Ordering} (h : x.toModel.unpack.compare y.toModel.unpack = some o) :
    x.isNaN = false ∧ y.isNaN = false := by
  have numbers : ¬(x.isNaN = true ∨ y.isNaN = true) := by
    intro undefined
    rw [compare_eq_none undefined] at h
    cases h
  simpa using numbers

theorem compare_eq (hx : x.isNaN = false) (hy : y.isNaN = false) :
    x.toModel.unpack.compare y.toModel.unpack = some (compare (rank x) (rank y)) :=
  Rank.compare_ofUnpacked hx hy

/-- One score is at most another if both are numbers and the ranks say so. -/
theorem le_iff : x ≤ y ↔ x.isNaN = false ∧ y.isNaN = false ∧ rank x ≤ rank y := by
  have unfolded : x ≤ y ↔ (x.toModel.unpack.compare y.toModel.unpack).any (·.isLE) = true :=
    decide_eq_true_iff
  rw [unfolded]
  constructor
  · intro h
    obtain ⟨o, compared, le⟩ := (Option.any_eq_true _ _).mp h
    obtain ⟨hx, hy⟩ := isNaN_of_compare compared
    rw [compare_eq hx hy] at compared
    obtain rfl := Option.some.inj compared
    exact ⟨hx, hy, compare_le_iff_le.mp (Ordering.isLE_iff_ne_gt.mp le)⟩
  · rintro ⟨hx, hy, le⟩
    rw [compare_eq hx hy, Option.any_some, Ordering.isLE_iff_ne_gt]
    exact compare_le_iff_le.mpr le

theorem lt_iff : x < y ↔ x.isNaN = false ∧ y.isNaN = false ∧ rank x < rank y := by
  have unfolded : x < y ↔ (x.toModel.unpack.compare y.toModel.unpack == some .lt) = true :=
    decide_eq_true_iff
  rw [unfolded]
  constructor
  · intro h
    have compared := eq_of_beq h
    obtain ⟨hx, hy⟩ := isNaN_of_compare compared
    rw [compare_eq hx hy] at compared
    exact ⟨hx, hy, compare_lt_iff_lt.mp (Option.some.inj compared)⟩
  · rintro ⟨hx, hy, lt⟩
    rw [compare_eq hx hy, compare_lt_iff_lt.mpr lt]
    rfl

theorem not_le_of_lt (h : x < y) : ¬y ≤ x := by
  intro le
  exact absurd (le_iff.mp le).2.2 (not_le.mpr (lt_iff.mp h).2.2)

/-- Two scores are alike if both are numbers and of one rank, as zero and negative zero are. -/
theorem beq_iff : (x == y) = true ↔ x.isNaN = false ∧ y.isNaN = false ∧ rank x = rank y := by
  have unfolded : (x == y) = (x.toModel.unpack.compare y.toModel.unpack == some .eq) := rfl
  rw [unfolded]
  constructor
  · intro h
    have compared := eq_of_beq h
    obtain ⟨hx, hy⟩ := isNaN_of_compare compared
    rw [compare_eq hx hy] at compared
    exact ⟨hx, hy, compare_eq_iff_eq.mp (Option.some.inj compared)⟩
  · rintro ⟨hx, hy, same⟩
    rw [compare_eq hx hy, compare_eq_iff_eq.mpr same]
    rfl

/-- How a score compares to another one, if the two can be compared. -/
def compare? (x y : Float32) : Option Ordering :=
  match decide (x ≤ y), decide (y ≤ x) with
  | true, true => some .eq
  | true, false => some .lt
  | false, true => some .gt
  | false, false => none

/-- Numbers can be compared, and come in order unless the first is the greater. -/
theorem compare?_of_numbers (hx : x.isNaN = false) (hy : y.isNaN = false) :
    ∃ o, compare? x y = some o ∧ o.isLE = decide (x ≤ y) := by
  unfold compare?
  cases le : decide (x ≤ y) with
  | true => cases decide (y ≤ x) <;> exact ⟨_, rfl, rfl⟩
  | false =>
      have above : rank y ≤ rank x := by
        by_contra below
        exact of_decide_eq_false le (le_iff.mpr ⟨hx, hy, (not_le.mp below).le⟩)
      rw [decide_eq_true (le_iff.mpr ⟨hy, hx, above⟩)]
      exact ⟨_, rfl, rfl⟩

end Score

end AnswerGateway
