import AnswerGateway.Proofs.Decimal.Shortest
import AnswerGateway.Proofs.Json.Range
import AnswerGateway.Proofs.Json.Whole
import Mathlib.Data.List.Induction

/-!
The shortest digits of a single-precision number are read back as a number, in each of the layouts
that a document has for them. A reader refuses a number only if it is too large for a double; the
powers of ten by which it moves the point are bounded by the digits and the exponent in the text.
-/

namespace AnswerGateway.Json

open Cursor Scan JsonText

/-! What is made of the digits that were found. -/

theorem ofWhole_exponent (ds : List Nat) : 0 ≤ (Significand.ofWhole ds).1.exponent ∧
    (Significand.ofWhole ds).1.exponent ≤ ds.length := by
  induction ds using List.reverseRecOn with
  | nil => exact ⟨Int.le_refl 0, Int.le_refl 0⟩
  | append_singleton front d ih =>
      rw [Significand.ofWhole] at ih ⊢
      rw [List.foldl_append, List.length_append, List.length_singleton, List.foldl_cons,
        List.foldl_nil]
      generalize List.foldl _ _ front = before at *
      obtain ⟨s, full⟩ := before
      simp only at ih ⊢
      split <;> simp only <;> omega

theorem addFraction_exponent (s : Significand) (ds : List Nat) :
    s.exponent - ds.length ≤ (s.addFraction ds).exponent ∧
      (s.addFraction ds).exponent ≤ s.exponent := by
  induction ds generalizing s with
  | nil =>
      rw [Significand.addFraction, List.length_nil]
      omega
  | cons d rest ih =>
      rw [Significand.addFraction, List.length_cons]
      split
      · omega
      · have more := ih ⟨s.value * 10 + d, s.exponent - 1⟩
        simp only at more
        omega

/-- How far the point may be moved in a number that is read. -/
def Movable (e : Int) : Prop := -280 ≤ e ∧ e ≤ 280

theorem toDouble_isSome {s : Significand} (negative : Bool) (movable : Movable s.exponent) :
    ∃ x, s.toDouble negative = some x := by
  obtain ⟨lower, upper⟩ := movable
  have few : s.exponent.natAbs ≤ 308 := by omega
  have finite := isInf_mul_powerOfTen s.value.toUInt64 (n := s.exponent.toNat) (by omega)
  have scaled : ∃ x, scale 4 s.value.toUInt64.toFloat s.exponent = some x := by
    rw [scale, if_pos few]
    split
    · simp only [finite]
      exact ⟨_, rfl⟩
    · exact ⟨_, rfl⟩
  obtain ⟨x, hx⟩ := scaled
  exact ⟨_, congrArg (Option.map _) hx⟩

theorem exponentOf_natChars :
    ∀ n < 281, exponentOf ((Decimal.natChars n).filterMap digit?) 0 0 = (n, none) := by
  decide +kernel

variable {negative : Bool} {after : List Char}

/-- A reader makes some number of a text, whatever value ends behind it. -/
def TakesDouble (p : Scan Numeral) (text : List Char) : Prop :=
  ∃ x, ∀ after, ClosesValue after → Takes p (text ++ after) (.double x) after

theorem all_natChars (n : Nat) : ∀ y ∈ Decimal.natChars n, (digit? y).isSome = true := by
  obtain ⟨x, more, d, chars, hx, -, digits?⟩ := natChars_eq n
  rw [chars]
  intro y member
  rcases List.mem_cons.mp member with rfl | later
  · rw [hx, Option.isSome_some]
  · exact digits? y later

/-- The mark of an exponent, its sign and its digits. -/
def exponentChars (order : Int) : List Char :=
  'e' :: (if order < 0 then '-' else '+') :: Decimal.natChars order.natAbs

theorem takes_char (text : List Char) :
    Takes (fun c => .ok (c.char?, c)) text text.head? text :=
  fun c h => ⟨c, congrArg (fun a => Except.ok (a, c)) h.char?, h⟩

/-- What is made of a significand and the digits of an exponent. -/
def scaledBy (negative : Bool) (s : Significand) (down : Bool) : Scan Numeral := do
  let before ← get
  if before.atEnd then failHere (.ended .value)
  if (digitAhead before).isNone then failAhead .badNumber
  let ds ← digits
  match exponentOf ds 0 0 with
  | (_, some taken) =>
    if s.value != 0 && !down then failAt .numberOutOfRange ⟨before.line, before.column + taken⟩
    else pure (.double (if negative then -0.0 else 0.0))
  | (e, none) =>
    let scale := if down then s.exponent - e else s.exponent + e
    match (Significand.mk s.value scale).toDouble negative with
    | some x => pure (.double x)
    | none => failHere .numberOutOfRange

theorem readExponent_eq (negative : Bool) (s : Significand) :
    readExponent negative s = (do
      advance
      let sign ← fun c => .ok (c.char?, c)
      if sign == some '+' || sign == some '-' then advance
      scaledBy negative s (sign == some '-')) := rfl

theorem takes_scaledBy {s : Significand} {down : Bool} {n : Nat} (small : n ≤ 280)
    (movable : Movable (if down then s.exponent - n else s.exponent + n)) :
    TakesDouble (scaledBy negative s down) (Decimal.natChars n) := by
  have value := exponentOf_natChars n (by omega)
  have all := all_natChars n
  obtain ⟨y, more, d, chars, hy, -⟩ := natChars_eq n
  rw [chars] at value all ⊢
  obtain ⟨x, double⟩ :=
    toDouble_isSome (s := ⟨s.value, if down then s.exponent - n else s.exponent + n⟩) negative
      movable
  refine ⟨x, fun after closes => .get_bind fun c h => ?_⟩
  simp only [h.atEnd, digitAhead, h.char?, List.cons_append, List.isEmpty_cons, List.head?_cons,
    Option.bind_some, hy]
  refine (takes_digits (y :: more) all closes.notDigit).bind ?_
  simp only [value]
  rw [double]
  exact takes_pure _ _

theorem takes_readExponent {s : Significand} {order : Int} (small : Movable order)
    (movable : Movable (s.exponent + order)) :
    TakesDouble (readExponent negative s) (exponentChars order) := by
  obtain ⟨lower, upper⟩ := small
  have moved : (if decide (order < 0) = true then s.exponent - order.natAbs
      else s.exponent + order.natAbs) = s.exponent + order := by
    simp only [decide_eq_true_eq]
    split <;> omega
  rw [← moved] at movable
  obtain ⟨x, scaled⟩ := takes_scaledBy (by omega) movable
  refine ⟨x, fun after closes => ?_⟩
  have scaled := scaled after closes
  rw [readExponent_eq]
  refine (takes_advance 'e' _).bind ((takes_char _).bind ?_)
  by_cases down : order < 0
  · rw [if_pos down]
    rw [decide_eq_true down] at scaled
    exact (takes_advance '-' _).bind scaled
  · rw [if_neg down]
    rw [decide_eq_false down] at scaled
    exact (takes_advance '+' _).bind scaled

/-- What is made of a significand when the digits behind a point have been taken. -/
def behindPoint (negative : Bool) (s : Significand) : Scan Numeral := do
  match (← get).char? with
  | some 'e' | some 'E' => readExponent negative s
  | _ =>
    match s.toDouble negative with
    | some x => pure (.double x)
    | none => failHere .numberOutOfRange

theorem takes_point {s : Significand} {full : Bool} {x : Char} {more rest : List Char}
    {a : Numeral} (digits? : ∀ y ∈ x :: more, (digit? y).isSome = true)
    (stops : rest.head?.bind digit? = none)
    (behind : Takes (behindPoint negative (s.addFraction ((x :: more).filterMap digit?))) rest a
      after) :
    Takes (readFraction negative s full) ('.' :: (x :: more ++ rest)) a after := by
  obtain ⟨d, hx⟩ := Option.isSome_iff_exists.mp (digits? x List.mem_cons_self)
  refine .get_bind fun c h => ?_
  rw [h.char?]
  refine (takes_advance '.' _).bind (.get_bind fun c h => ?_)
  simp only [h.atEnd, digitAhead, h.char?, List.cons_append, List.isEmpty_cons, List.head?_cons,
    Option.bind_some, hx]
  exact (takes_digits (x :: more) digits? stops).bind behind

/-- The digits behind a point, with the point before them if there are any. -/
def pointChars : List Char → List Char
  | [] => []
  | x :: more => '.' :: x :: more

/-- What makes a number fractional: digits behind a point, an exponent, or both. -/
def tailChars (fraction : List Char) (order : Option Int) : List Char :=
  pointChars fraction ++ order.elim [] exponentChars

/-- A tail that is not empty, and does not move the point too far from where it was. -/
structure Tail (start : Int) (fraction : List Char) (order : Option Int) : Prop where
  any : fraction ≠ [] ∨ order.isSome = true
  digits? : ∀ y ∈ fraction, (digit? y).isSome = true
  small : ∀ o ∈ order, Movable o
  movable : ∀ e, start - fraction.length ≤ e → e ≤ start → Movable (e + order.getD 0)

theorem Tail.takes {s : Significand} {full : Bool} {fraction : List Char} {order : Option Int}
    (tail : Tail s.exponent fraction order) :
    TakesDouble (readFraction negative s full) (tailChars fraction order) := by
  obtain ⟨any, digits?, small, movable⟩ := tail
  cases fraction with
  | nil =>
      obtain ⟨o, rfl⟩ : ∃ o, order = some o := by
        rcases any with nonempty | some
        · exact absurd rfl nonempty
        · exact Option.isSome_iff_exists.mp some
      have moved := movable s.exponent (by simp) (Int.le_refl _)
      obtain ⟨x, exponent⟩ := takes_readExponent (small o rfl) moved
      refine ⟨x, fun after closes => .get_bind fun c h => ?_⟩
      rw [h.char?]
      exact exponent after closes
  | cons y more =>
      have bounds := addFraction_exponent s ((y :: more).filterMap digit?)
      have length := List.length_filterMap_le digit? (y :: more)
      have moved := movable (s.addFraction ((y :: more).filterMap digit?)).exponent (by omega)
        bounds.2
      have text (rest after : List Char) :
          pointChars (y :: more) ++ rest ++ after = '.' :: (y :: more ++ (rest ++ after)) := by
        simp [pointChars]
      cases order with
      | none =>
          rw [Option.getD_none, Int.add_zero] at moved
          obtain ⟨x, double⟩ := toDouble_isSome negative moved
          refine ⟨x, fun after closes => ?_⟩
          rw [tailChars, text]
          refine takes_point digits? closes.notDigit (.get_bind fun c h => ?_)
          rw [h.char?, double]
          rcases closes.head_cases with head | head | head | head <;>
            rw [Option.elim_none, List.nil_append, head] <;> exact takes_pure _ after
      | some o =>
          obtain ⟨x, exponent⟩ := takes_readExponent (small o rfl) moved
          refine ⟨x, fun after closes => ?_⟩
          rw [tailChars, text]
          refine takes_point digits? rfl (.get_bind fun c h => ?_)
          rw [h.char?]
          exact exponent after closes

theorem Tail.stops {start : Int} {fraction : List Char} {order : Option Int}
    (tail : Tail start fraction order) (after : List Char) :
    (tailChars fraction order ++ after).head?.bind digit? = none := by
  cases fraction with
  | cons => rfl
  | nil =>
      cases order with
      | some => rfl
      | none =>
          rcases tail.any with nonempty | some
          · exact absurd rfl nonempty
          · cases some

/-- A number of digits before the point and a tail, with its digits and its exponent bounded. -/
inductive Legible : List Char → Prop where
  | spelled {whole fraction : List Char} {order : Option Int} (starts : WholeDigits whole)
      (any : fraction ≠ [] ∨ order.isSome = true)
      (digits? : ∀ y ∈ fraction, (digit? y).isSome = true)
      (short : whole.length + fraction.length + (order.getD 0).natAbs ≤ 280) :
      Legible (whole ++ tailChars fraction order)

theorem Legible.begins {text : List Char} (h : Legible text) (negative : Bool) :
    ∃ x more, signChars negative ++ text = x :: more ∧ BeginsNumeral x := by
  obtain ⟨starts⟩ := h
  rw [← List.append_assoc]
  exact starts.begins_signed negative _

theorem Legible.reads {text : List Char} (h : Legible text) (negative : Bool) (wanted : String) :
    ∃ x, Reads (readNumber wanted) (signChars negative ++ text) (.double x) := by
  have begins := h.begins negative
  cases h with
  | @spelled whole fraction order starts any digits? short =>
      have bounds := ofWhole_exponent (whole.filterMap digit?)
      have length := List.length_filterMap_le digit? whole
      have tail :
          Tail (Significand.ofWhole (whole.filterMap digit?)).1.exponent fraction order := by
        refine ⟨any, digits?, ?_, ?_⟩
        · rintro o rfl
          rw [Option.getD_some] at short
          unfold Movable
          omega
        · intro e lower upper
          unfold Movable
          omega
      obtain ⟨x, takes⟩ := tail.takes
      refine ⟨x, reads_readNumber wanted begins fun after closes => ?_⟩
      rw [List.append_assoc, List.append_assoc, ← List.append_assoc (signChars negative)]
      exact starts.takes_signed (starts.takes (tail.stops after) (takes after closes))

end AnswerGateway.Json
