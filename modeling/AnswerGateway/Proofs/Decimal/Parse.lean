import AnswerGateway.Decimal.Parse
import Mathlib.Data.List.TakeWhile

/-!
Which texts are numbers. A whole number of 64 bits is read from a text as it is written: its digits
add up to it, and a minus sign in front is no digit. A text with a character that is in no number is
no number, wherever the character stands.
-/

namespace AnswerGateway.Decimal

variable {cs : List Char}

theorem digitValue?_of_isDigit {c : Char} (digit : c.isDigit = true) :
    digitValue? c = some (c.toNat - '0'.toNat) := by
  have within : '0' ≤ c ∧ c ≤ '9' := by
    simpa [Char.isDigit, Char.le_def, UInt32.le_iff_toNat_le] using digit
  rw [digitValue?, if_pos within]

/-- A row of digits has the value that they have in base ten. -/
theorem naturalOf?_of_isDigit (nonempty : cs ≠ []) (digits : ∀ c ∈ cs, c.isDigit = true) :
    naturalOf? cs = some (Nat.ofDigitChars 10 cs 0) := by
  have sum (n : Nat) :
      cs.foldl (fun n c => do return (← n) * 10 + (← digitValue? c)) (some n) =
        some (Nat.ofDigitChars 10 cs n) := by
    clear nonempty
    induction cs generalizing n with
    | nil => rfl
    | cons c cs ih =>
        obtain ⟨digit, digits⟩ := List.forall_mem_cons.mp digits
        rw [List.foldl_cons, Nat.ofDigitChars_cons, Nat.mul_comm, digitValue?_of_isDigit digit]
        exact ih digits _
  rw [naturalOf?, List.isEmpty_eq_false_iff.mpr nonempty]
  exact sum 0

theorem isDigit_of_mem_toDigits {n : Nat} {c : Char} (member : c ∈ Nat.toDigits 10 n) :
    c.isDigit = true :=
  Nat.isDigit_of_mem_toDigits (by decide) (by decide) member

theorem naturalOf?_toDigits (n : Nat) : naturalOf? (Nat.toDigits 10 n) = some n := by
  rw [naturalOf?_of_isDigit Nat.toDigits_ne_nil fun c => isDigit_of_mem_toDigits,
    Nat.ofDigitChars_ten_toDigits]

/-- The characters of a whole number: its digits, behind a minus sign if it is negative. -/
theorem toList_toString_int (i : Int) :
    (toString i).toList =
      if i < 0 then '-' :: Nat.toDigits 10 i.natAbs else Nat.toDigits 10 i.natAbs := by
  cases i with
  | ofNat n =>
      have text : toString (Int.ofNat n) = toString n := rfl
      rw [text, Nat.toString_eq_ofList_toDigits, String.toList_ofList, if_neg (by simp)]
      rfl
  | negSucc n =>
      have text : toString (Int.negSucc n) = "-" ++ toString (n + 1) := rfl
      rw [text, Nat.toString_eq_ofList_toDigits, String.toList_append,
        String.toList_ofList, String.toList_ofList, if_pos (Int.negSucc_lt_zero n)]
      rfl

theorem signed_toDigits (n : Nat) : signed (Nat.toDigits 10 n) = (false, Nat.toDigits 10 n) := by
  have digits (c : Char) : c ∈ Nat.toDigits 10 n → c.isDigit = true := isDigit_of_mem_toDigits
  cases chars : Nat.toDigits 10 n with
  | nil => rfl
  | cons c rest =>
      rw [chars] at digits
      have digit := digits c List.mem_cons_self
      unfold signed
      split
      · rename_i same
        cases same
        exact absurd digit (by decide)
      · rename_i same
        cases same
        exact absurd digit (by decide)
      · rfl

theorem parseInt64?_of_signed {s : String} {negative : Bool} {n : Nat} {i : Int64}
    (sign : signed s.toList = (negative, cs)) (magnitude : naturalOf? cs = some n)
    (value : (if negative then -(n : Int) else n) = i.toInt) : parseInt64? s = some i := by
  have low := i.le_toInt
  have high := i.toInt_lt
  have bounds : -0x8000000000000000 ≤ i.toInt ∧ i.toInt < 0x8000000000000000 := by omega
  simp only [parseInt64?, sign, magnitude, Option.bind_eq_bind, Option.bind_some, value]
  rw [if_pos bounds, Int64.ofInt_toInt]

/-- What is printed as a whole number of 64 bits is read as that number. -/
theorem parseInt64?_toString (i : Int64) : parseInt64? (toString i) = some i := by
  have text : (toString i).toList = (toString i.toInt).toList := rfl
  have magnitude := naturalOf?_toDigits i.toInt.natAbs
  rw [toList_toString_int] at text
  by_cases negative : i.toInt < 0
  · have sign : signed (toString i).toList = (true, Nat.toDigits 10 i.toInt.natAbs) := by
      rw [text, if_pos negative, signed]
    refine parseInt64?_of_signed sign magnitude ?_
    rw [if_pos rfl]
    omega
  · have sign : signed (toString i).toList = (false, Nat.toDigits 10 i.toInt.natAbs) := by
      rw [text, if_neg negative, signed_toDigits]
    refine parseInt64?_of_signed sign magnitude ?_
    rw [if_neg Bool.false_ne_true]
    omega

/-! Texts that are no numbers. -/

/-- A character that is in no number, neither in one of digits nor in one that has a name. -/
structure Foreign (c : Char) : Prop where
  digit : digitValue? c = none
  mark : c ∉ ['-', '+', '.', 'e', 'E']
  letter : c.toLower ∉ "infinity".toList ++ "nan".toList

section Foreign

variable {c : Char}

theorem naturalOf?_eq_none (noDigit : digitValue? c = none) (member : c ∈ cs) :
    naturalOf? cs = none := by
  have stuck (cs : List Char) :
      cs.foldl (fun n c => do return (← n) * 10 + (← digitValue? c)) none = none := by
    induction cs with
    | nil => rfl
    | cons d cs ih => exact ih
  have sum (n : Option Nat) :
      cs.foldl (fun n c => do return (← n) * 10 + (← digitValue? c)) n = none := by
    induction cs generalizing n with
    | nil => cases member
    | cons d cs ih =>
        rw [List.foldl_cons]
        rcases List.mem_cons.mp member with rfl | behind
        · rw [noDigit]
          cases n <;> exact stuck cs
        · exact ih behind _
  rw [naturalOf?, sum, ite_self]

theorem mem_signed (foreign : Foreign c) (member : c ∈ cs) : c ∈ (signed cs).2 := by
  have other (d : Char) (sign : d ∈ ['-', '+', '.', 'e', 'E']) : c ≠ d :=
    fun same => foreign.mark (same ▸ sign)
  unfold signed
  split
  · exact (List.mem_cons.mp member).resolve_left (other '-' (by decide))
  · exact (List.mem_cons.mp member).resolve_left (other '+' (by decide))
  · exact member

theorem exponentOf?_eq_none (foreign : Foreign c) (member : c ∈ cs) : exponentOf? cs = none := by
  cases cs with
  | nil => cases member
  | cons d cs =>
      rw [exponentOf?]
      split
      · rename_i letter
        have behind : c ∈ cs := by
          refine (List.mem_cons.mp member).resolve_left ?_
          rintro rfl
          rcases letter with rfl | rfl <;> exact foreign.mark (by decide)
        have none := naturalOf?_eq_none foreign.digit (mem_signed foreign behind)
        simp only [none, Option.bind_eq_bind, Option.bind_none]
      · rfl

theorem mem_leadingDigits (foreign : Foreign c) (member : c ∈ cs) : c ∈ (leadingDigits cs).2 := by
  have split := List.takeWhile_append_dropWhile (p := fun c => (digitValue? c).isSome) (l := cs)
  rw [← split] at member
  refine (List.mem_append.mp member).resolve_left fun digits => ?_
  have digit : (digitValue? c).isSome = true :=
    List.mem_takeWhile_imp (p := fun c => (digitValue? c).isSome) digits
  rw [foreign.digit] at digit
  cases digit

theorem magnitudeOf?_eq_none (foreign : Foreign c) (member : c ∈ cs) :
    magnitudeOf? cs = none := by
  have behind := mem_leadingDigits foreign member
  unfold magnitudeOf?
  generalize leadingDigits cs = parts at behind ⊢
  obtain ⟨whole, rest⟩ := parts
  have noPoint : c ≠ '.' := by
    rintro rfl
    exact foreign.mark (by decide)
  dsimp only at behind ⊢
  split
  · rename_i fraction
    have behindFraction : c ∈ (leadingDigits fraction).2 :=
      mem_leadingDigits foreign ((List.mem_cons.mp behind).resolve_left noPoint)
    simp [exponentOf?_eq_none foreign behindFraction]
  · simp [exponentOf?_eq_none foreign behind]

theorem namedNumber?_eq_none (foreign : Foreign c) (member : c ∈ cs) :
    namedNumber? cs = none := by
  have other {name : String} (within : name.toList ⊆ "infinity".toList ++ "nan".toList) :
      String.ofList (cs.map Char.toLower) ≠ name := by
    rintro rfl
    rw [String.toList_ofList] at within
    exact foreign.letter (within (List.mem_map_of_mem member))
  simp only [namedNumber?]
  rw [if_neg, if_neg (other (by decide))]
  exact not_or.mpr ⟨other (by decide), other (by decide)⟩

theorem parseInt64?_eq_none {s : String} (foreign : Foreign c) (member : c ∈ s.toList) :
    parseInt64? s = none := by
  have none := naturalOf?_eq_none foreign.digit (mem_signed foreign member)
  simp only [parseInt64?, none, Option.bind_eq_bind, Option.bind_none]

theorem parseDouble?_eq_none {s : String} (foreign : Foreign c) (member : c ∈ s.toList) :
    parseDouble? s = none := by
  have unsigned := mem_signed foreign member
  simp only [parseDouble?, namedNumber?_eq_none foreign unsigned,
    magnitudeOf?_eq_none foreign unsigned, Option.orElse_none, Option.bind_eq_bind,
    Option.bind_none]

end Foreign

end AnswerGateway.Decimal
