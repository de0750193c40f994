import AnswerGateway.Proofs.Json.Fractional

/-!
Every single-precision number that is written into a document is read back as an optional number: as
null where it has no digits, and as some number where it has.
-/

namespace AnswerGateway.Json

open Cursor Scan JsonText
open Decimal (natChars)

/-- Digits that begin with one that is no zero. -/
structure Leads (x : Char) (more : List Char) : Prop where
  digits? : ∀ y ∈ x :: more, (digit? y).isSome = true
  first : digit? x ≠ some 0

theorem exists_leads {n : Nat} (positive : 0 < n) :
    ∃ x more, natChars n = x :: more ∧ Leads x more := by
  obtain ⟨x, more, d, chars, hx, zero, -⟩ := natChars_eq n
  refine ⟨x, more, chars, ?_, ?_⟩
  · rw [← chars]
    exact all_natChars n
  · rw [hx]
    intro same
    have none := (zero (Option.some.inj same)).1
    omega

variable {x : Char} {more : List Char}

/-- They may stand before a point, alone or with any digits behind the first of them. -/
theorem Leads.whole (h : Leads x more) {behind : List Char}
    (digits? : ∀ y ∈ behind, (digit? y).isSome = true) : WholeDigits (x :: behind) := by
  obtain ⟨d, hx⟩ := Option.isSome_iff_exists.mp (h.digits? x List.mem_cons_self)
  refine ⟨x, behind, d, rfl, hx, ?_, digits?⟩
  rintro rfl
  exact absurd hx h.first

theorem Leads.behind (h : Leads x more) : ∀ y ∈ more, (digit? y).isSome = true :=
  fun y member => h.digits? y (List.mem_cons_of_mem x member)

theorem wholeDigits_zero : WholeDigits ['0'] :=
  ⟨'0', [], 0, rfl, rfl, fun _ => rfl, fun _ member => nomatch member⟩

theorem all_zeros (count : Nat) : ∀ y ∈ List.replicate count '0', (digit? y).isSome = true := by
  intro y member
  rw [List.eq_of_mem_replicate member]
  rfl

theorem all_append {front back : List Char} (h : ∀ y ∈ front, (digit? y).isSome = true)
    (h' : ∀ y ∈ back, (digit? y).isSome = true) :
    ∀ y ∈ front ++ back, (digit? y).isSome = true := by
  intro y member
  rcases List.mem_append.mp member with first | second
  · exact h y first
  · exact h' y second

/-- A number without an exponent. -/
theorem Legible.pointed {whole fraction : List Char} (starts : WholeDigits whole)
    (any : fraction ≠ []) (digits? : ∀ y ∈ fraction, (digit? y).isSome = true)
    (short : whole.length + fraction.length ≤ 280) : Legible (whole ++ '.' :: fraction) := by
  have spelled : Legible (whole ++ tailChars fraction none) :=
    .spelled starts (.inl any) digits? short
  cases fraction with
  | nil => exact absurd rfl any
  | cons y rest =>
      rw [tailChars, Option.elim_none, List.append_nil] at spelled
      exact spelled

theorem legible_zero : Legible ['0', '.', '0'] :=
  .pointed wholeDigits_zero (List.cons_ne_nil _ _) (all_zeros 1) (by decide)

/-- Digits that are not zero and not too many, and an exponent that is not too large. -/
structure Moderate (d : Decimal.Digits) : Prop where
  positive : 0 < d.digits
  few : (natChars d.digits).length ≤ 107
  least : -68 ≤ d.exponent
  most : d.exponent ≤ 39

variable {d : Decimal.Digits}

theorem Moderate.legible_positional (h : Moderate d)
    (near : -5 < ((natChars d.digits).length : Int) + d.exponent)
    (reach : ((natChars d.digits).length : Int) + d.exponent ≤ 13) :
    Legible (d.positional ['.', '0']) := by
  obtain ⟨positive, few, least, most⟩ := h
  obtain ⟨x, more, chars, leads⟩ := exists_leads positive
  unfold Decimal.Digits.positional
  rw [chars] at few near reach ⊢
  simp only
  rw [List.length_cons] at few near reach ⊢
  split
  · -- All digits stand before the point.
    have digits? := all_append leads.behind (all_zeros d.exponent.toNat)
    refine .pointed (leads.whole digits?) (List.cons_ne_nil _ _) (all_zeros 1) ?_
    simp only [List.length_append, List.length_cons, List.length_replicate, List.length_nil]
    omega
  · split
    · -- The point stands between digits.
      rename_i negative inside
      obtain ⟨count, place⟩ : ∃ count : Nat, ((more.length + 1 : Nat) : Int) + d.exponent =
          (count + 1 : Nat) :=
        ⟨(((more.length + 1 : Nat) : Int) + d.exponent - 1).toNat, by omega⟩
      rw [place, Int.toNat_natCast, List.take_succ_cons, List.drop_succ_cons]
      refine .pointed (leads.whole fun y member => leads.behind y (List.mem_of_mem_take member))
        ?_ (fun y member => leads.behind y (List.mem_of_mem_drop member)) ?_
      · rw [Ne, List.drop_eq_nil_iff]
        omega
      · rw [List.length_cons, List.length_take, List.length_drop]
        omega
    · -- All digits stand behind the point.
      have digits? := all_append (all_zeros (-(((more.length + 1 : Nat) : Int) + d.exponent)).toNat)
        leads.digits?
      change Legible (['0'] ++ '.' :: (List.replicate _ '0' ++ x :: more))
      refine .pointed wholeDigits_zero (List.append_ne_nil_of_right_ne_nil _ ?_) digits? ?_
      · exact List.cons_ne_nil x more
      · rw [List.length_append, List.length_replicate, List.length_singleton, List.length_cons]
        omega

theorem Moderate.legible_scientific (h : Moderate d) : Legible d.scientific := by
  obtain ⟨positive, few, least, most⟩ := h
  obtain ⟨x, more, chars, leads⟩ := exists_leads positive
  unfold Decimal.Digits.scientific
  rw [chars] at few ⊢
  rw [List.length_cons] at few
  have spelled : Legible ([x] ++ tailChars more
      (some (((x :: more).length : Nat) + d.exponent - 1))) := by
    refine .spelled (leads.whole fun _ member => nomatch member) (.inr rfl) leads.behind ?_
    simp only [List.length_cons, List.length_nil, Option.getD_some]
    omega
  cases more with
  | nil => exact spelled
  | cons y rest => exact spelled

theorem Moderate.legible (h : Moderate d) : Legible (d.inDocument 13) := by
  unfold Decimal.Digits.inDocument
  simp only
  split
  · rename_i inside
    simp only [Bool.and_eq_true, decide_eq_true_eq] at inside
    exact h.legible_positional inside.1 inside.2
  · exact h.legible_scientific

theorem moderate_shortest {m : Decimal.Magnitude} (h : m.Single) : Moderate m.shortest := by
  obtain ⟨positive, bound, least, most⟩ := h.shortest_bounds
  exact ⟨positive, (Nat.length_toDigits_le_iff (by decide) (by decide)).mpr bound, least, most⟩

/-- A single-precision number is written as a numeral or as null. -/
theorem single_cases (x : Float32) :
    JsonText.single x = literalNull ∨
      ∃ negative text, JsonText.single x = signChars negative ++ text ∧ Legible text := by
  unfold JsonText.single Decimal.singleDocument?
  generalize reading : Decimal.readSingle x = r
  cases r with
  | finite negative m =>
      exact .inr ⟨negative, _, rfl,
        (moderate_shortest (Decimal.readSingle_single reading)).legible⟩
  | zero negative => exact .inr ⟨negative, _, rfl, legible_zero⟩
  | infinite | notANumber => exact .inl rfl

/-- What is written for a single-precision number is read as an optional number. -/
theorem exists_reads_single (x : Float32) (depth : Nat) :
    ∃ t, Reads (readOptional (Format.single : Reader Float32) depth) (JsonText.single x) t := by
  rcases single_cases x with null | ⟨negative, text, chars, legible⟩
  · rw [null]
    exact ⟨none, reads_readOptional_none _ _⟩
  · obtain ⟨y, reads⟩ := legible.reads negative "f32"
    have notNull := BeginsNumeral.notNull (legible.begins negative)
    rw [chars]
    exact ⟨_, reads_readOptional_some (reads.map Numeral.toSingle) notNull⟩

end AnswerGateway.Json
