import AnswerGateway.Proofs.Json.Value

/-!
A natural number of at most 64 bits is read as it was written. Its digits are added up from the
left; as long as the number fits, every one of them counts.
-/

namespace AnswerGateway.Json

open Cursor Scan JsonText

/-- The digits of a number that fits add up to it. -/
theorem ofWhole_natChars {n : Nat} (fits : n < wordLimit) :
    Significand.ofWhole ((Decimal.natChars n).filterMap digit?) = (⟨n, 0⟩, false) := by
  unfold Decimal.natChars
  induction n using Nat.strongRecOn with
  | ind n ih =>
      by_cases short : n < 10
      · have one := Nat.toDigits_of_lt_base short
        have small : ¬wordLimit ≤ n := Nat.not_le.mpr fits
        rw [one, List.filterMap_cons_some (digit?_digitChar short), List.filterMap_nil]
        simp [Significand.ofWhole, small]
      · have long : 10 ≤ n := Nat.not_lt.mp short
        have last := digit?_digitChar (Nat.mod_lt n (by decide : 0 < 10))
        have front := ih (n / 10) (by omega) (by omega)
        have whole : n / 10 * 10 + n % 10 = n := by omega
        have small : ¬wordLimit ≤ n := Nat.not_le.mpr fits
        rw [Nat.toDigits_of_base_le (by decide) long, List.filterMap_append,
          List.filterMap_cons_some last, List.filterMap_nil]
        rw [Significand.ofWhole] at front ⊢
        rw [List.foldl_append, front]
        simp [whole, small]

variable {after : List Char}

/-- Digits as they may stand before a point: a zero begins them only where it is all of them. -/
def WholeDigits (ds : List Char) : Prop :=
  ∃ x more d, ds = x :: more ∧ digit? x = some d ∧ (d = 0 → more = []) ∧
    ∀ y ∈ more, (digit? y).isSome = true

theorem wholeDigits_natChars (n : Nat) : WholeDigits (Decimal.natChars n) := by
  obtain ⟨x, more, d, chars, hx, zero, digits?⟩ := natChars_eq n
  exact ⟨x, more, d, chars, hx, fun hd => (zero hd).2, digits?⟩

theorem WholeDigits.begins {ds : List Char} (h : WholeDigits ds) :
    ∃ x more, ds = x :: more ∧ (digit? x).isSome = true := by
  obtain ⟨x, more, d, chars, hx, -⟩ := h
  exact ⟨x, more, chars, by rw [hx, Option.isSome_some]⟩

/-- The digits before a point are added up, and then it matters what stands behind them. -/
theorem WholeDigits.takes {negative : Bool} {ds rest : List Char} {a : Numeral}
    (h : WholeDigits ds) (stops : rest.head?.bind digit? = none)
    (behind : Takes (readFraction negative (Significand.ofWhole (ds.filterMap digit?)).1
      (Significand.ofWhole (ds.filterMap digit?)).2) rest a after) :
    Takes (readMagnitude negative) (ds ++ rest) a after := by
  obtain ⟨x, more, d, rfl, hx, zero, digits?⟩ := h
  refine .get_bind fun c h => ?_
  simp only [h.atEnd, digitAhead, h.char?, List.cons_append, List.isEmpty_cons, List.head?_cons,
    Option.bind_some, hx]
  rcases Nat.eq_zero_or_pos d with rfl | pos
  · obtain rfl := zero rfl
    rw [List.filterMap_cons_some hx] at behind
    refine (takes_advance x rest).bind (.get_bind fun c h => ?_)
    simp only [h.char?, stops, Option.isSome_none]
    exact behind
  · obtain ⟨d, rfl⟩ := Nat.exists_eq_add_one.mpr pos
    have all : ∀ y ∈ x :: more, (digit? y).isSome = true := by
      intro y member
      rcases List.mem_cons.mp member with rfl | later
      · rw [hx, Option.isSome_some]
      · exact digits? y later
    exact (takes_digits (x :: more) all stops).bind behind

/-- What closes a value is no fraction and no exponent. -/
theorem takes_readFraction_whole (negative : Bool) (s : Significand) (closes : ClosesValue after) :
    Takes (readFraction negative s false) after (wholeNumeral negative s.value) after := by
  refine .get_bind fun c h => ?_
  rcases closes.head_cases with head | head | head | head <;> rw [h.char?, head] <;>
    exact takes_pure _ after

theorem takes_readMagnitude {n : Nat} (negative : Bool) (fits : n < wordLimit)
    (closes : ClosesValue after) :
    Takes (readMagnitude negative) (Decimal.natChars n ++ after) (wholeNumeral negative n)
      after := by
  apply (wholeDigits_natChars n).takes closes.notDigit
  rw [ofWhole_natChars fits]
  exact takes_readFraction_whole negative ⟨n, 0⟩ closes

/-- The sign of a numeral, if it is shown. -/
def signChars (negative : Bool) : List Char := if negative then ['-'] else []

/-- A numeral is read by its digits, after its sign. -/
theorem WholeDigits.takes_signed {negative : Bool} {ds rest : List Char} {a : Numeral}
    (h : WholeDigits ds) (magnitude : Takes (readMagnitude negative) (ds ++ rest) a after) :
    Takes readNumeral (signChars negative ++ ds ++ rest) a after := by
  obtain ⟨x, more, rfl, digit⟩ := h.begins
  refine .get_bind fun c h => ?_
  rw [h.char?]
  cases negative with
  | true => exact (takes_advance '-' _).bind magnitude
  | false =>
      have other : some x ≠ some '-' := by
        intro same
        cases same
        cases digit
      simp only [signChars, Bool.false_eq_true, if_false, List.nil_append, List.cons_append,
        List.head?_cons]
      exact magnitude

/-- A value that begins as a numeral and is read as one. -/
theorem reads_readNumber {text : List Char} {a : Numeral} (wanted : String)
    (begins : ∃ x more, text = x :: more ∧ BeginsNumeral x)
    (numeral : ∀ after, ClosesValue after → Takes readNumeral (text ++ after) a after) :
    Reads (readNumber wanted) text a where
  opens := by
    obtain ⟨x, more, chars, begins⟩ := begins
    exact ⟨x, more, chars, begins.solid, begins.ne (by decide)⟩
  takes after closes := by
    have numeral := numeral after closes
    obtain ⟨x, more, rfl, begins⟩ := begins
    refine (takes_valueAhead _ begins.solid).bind ?_
    have starts : x = '-' ∨ (digit? x).isSome = true := begins
    simp only [if_pos starts]
    exact numeral

theorem WholeDigits.begins_signed {ds : List Char} (h : WholeDigits ds) (negative : Bool)
    (rest : List Char) :
    ∃ x more, signChars negative ++ ds ++ rest = x :: more ∧ BeginsNumeral x := by
  obtain ⟨x, more, rfl, digit⟩ := h.begins
  cases negative with
  | true => exact ⟨'-', _, rfl, .inl rfl⟩
  | false => exact ⟨x, _, rfl, .inr digit⟩

/-- A whole number of 64 bits. -/
theorem reads_readNumber_whole (negative : Bool) {n : Nat} (fits : n < wordLimit)
    (wanted : String) :
    Reads (readNumber wanted) (signChars negative ++ Decimal.natChars n)
      (wholeNumeral negative n) := by
  apply reads_readNumber
  · have begins := (wholeDigits_natChars n).begins_signed negative []
    rwa [List.append_nil] at begins
  · intro after closes
    exact (wholeDigits_natChars n).takes_signed (takes_readMagnitude negative fits closes)

theorem Reads.unsigned {depth n bits : Nat} {name : String} {text : List Char}
    (number : Reads (readNumber name) text (.natural n)) (fits : n < Nat.pow 2 bits) :
    Reads ((Format.unsigned name bits : Reader Nat) depth) text n where
  opens := number.opens
  takes after closes := by
    have unsigned : (Numeral.natural n).unsigned? name bits = .ok n := by
      rw [Numeral.unsigned?, if_pos]
      exact fits
    refine (number.takes after closes).bind ?_
    rw [unsigned]
    exact takes_pure n after

theorem reads_word32 (n : UInt32) (depth : Nat) :
    Reads ((Format.word32 : Reader UInt32) depth) (natural n.toNat) n := by
  have bound := n.toNat_lt
  have fits : n.toNat < wordLimit := Nat.lt_trans bound (by decide)
  have word : Reads ((Format.unsigned "u32" 32 : Reader Nat) depth) (natural n.toNat) n.toNat :=
    (reads_readNumber_whole false fits "u32").unsigned bound
  have whole := word.map UInt32.ofNat
  rw [UInt32.ofNat_toNat] at whole
  exact whole

theorem reads_nullable_word32 (n : UInt32) (depth : Nat) :
    Reads (readOptional (Format.word32 : Reader UInt32) depth) (natural n.toNat) (some n) := by
  apply reads_readOptional_some (reads_word32 n depth)
  obtain ⟨x, more, chars, digit⟩ := (wholeDigits_natChars n.toNat).begins
  exact BeginsNumeral.notNull ⟨x, more, chars, .inr digit⟩

theorem Reads.signed {depth : Nat} {numeral : Numeral} {i : Int} {text : List Char}
    (number : Reads (readNumber "i64") text numeral) (value : numeral.signed? = .ok i) :
    Reads ((Format.signed : Reader Int) depth) text i where
  opens := number.opens
  takes after closes := by
    refine (number.takes after closes).bind ?_
    rw [value]
    exact takes_pure i after

theorem intChars_signed (i : Int) :
    whole i = signChars (decide (i < 0)) ++ Decimal.natChars i.natAbs := by
  unfold whole Decimal.intChars signChars
  by_cases negative : i < 0
  · simp [negative]
  · simp [negative]

theorem wholeNumeral_signed {i : Int} (lower : -0x8000000000000000 ≤ i)
    (upper : i < 0x8000000000000000) :
    (wholeNumeral (decide (i < 0)) i.natAbs).signed? = .ok i := by
  by_cases negative : i < 0
  · have inside : (0 < i.natAbs && i.natAbs ≤ 0x8000000000000000) = true := by
      rw [Bool.and_eq_true, decide_eq_true_eq, decide_eq_true_eq]
      omega
    have same : -(i.natAbs : Int) = i := by omega
    rw [wholeNumeral, decide_eq_true negative, inside, same]
    rfl
  · have small : i.natAbs < 0x8000000000000000 := by omega
    have same : (i.natAbs : Int) = i := by omega
    rw [wholeNumeral, decide_eq_false negative]
    change (if i.natAbs < 0x8000000000000000 then Except.ok (i.natAbs : Int) else _) = _
    rw [if_pos small, same]

theorem reads_int64 (n : Int64) (depth : Nat) :
    Reads ((Format.int64 : Reader Int64) depth) (whole n.toInt) n := by
  have lower := n.le_toInt
  have upper := n.toInt_lt
  have fits : n.toInt.natAbs < wordLimit := by
    unfold wordLimit
    omega
  have number := reads_readNumber_whole (decide (n.toInt < 0)) fits "i64"
  rw [← intChars_signed] at number
  have signed : Reads ((Format.signed : Reader Int) depth) (whole n.toInt) n.toInt :=
    number.signed (wholeNumeral_signed lower upper)
  have whole := signed.map Int64.ofInt
  rw [Int64.ofInt_toInt] at whole
  exact whole

end AnswerGateway.Json
