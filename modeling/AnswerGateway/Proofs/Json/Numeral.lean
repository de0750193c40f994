import AnswerGateway.Json.Reader
import AnswerGateway.Proofs.Json.Scan

/-!
A whole number is passed over as far as it was written, if what stands behind it cannot go on with
it.
-/

namespace AnswerGateway.Json

open Text (Glyph)
open Cursor Scan

/-- What may stand behind a value inside a document. -/
def ClosesValue (after : List Char) : Prop := ∀ a ∈ after.head?, a ∈ [',', ']', '\x7d']

theorem digit?_digitChar {n : Nat} (h : n < 10) : digit? (Nat.digitChar n) = some n := by
  have table : ∀ k < 10, digit? (Nat.digitChar k) = some k := by decide
  exact table n h

/-- A natural number is written in digits, and begins with a zero only if that is all. -/
theorem natChars_eq (n : Nat) :
    ∃ x more d, Decimal.natChars n = x :: more ∧ digit? x = some d ∧ (d = 0 → n = 0 ∧ more = []) ∧
      ∀ y ∈ more, (digit? y).isSome = true := by
  unfold Decimal.natChars
  induction n using Nat.strongRecOn with
  | ind n ih =>
      by_cases short : n < 10
      · have one := Nat.toDigits_of_lt_base short
        refine ⟨Nat.digitChar n, [], n, one, digit?_digitChar short, ?_, ?_⟩
        · exact fun zero => ⟨zero, rfl⟩
        · exact fun y member => nomatch member
      · have long : 10 ≤ n := Nat.not_lt.mp short
        have positive : 0 < n / 10 := Nat.div_pos long (by decide)
        obtain ⟨x, more, d, chars, hx, zero, digits?⟩ := ih (n / 10) (by omega)
        have last := digit?_digitChar (Nat.mod_lt n (by decide : 0 < 10))
        refine ⟨x, more ++ [Nat.digitChar (n % 10)], d, ?_, hx, ?_, ?_⟩
        · rw [Nat.toDigits_of_base_le (by decide) long, chars, List.cons_append]
        · intro hd
          have none := (zero hd).1
          omega
        · intro y member
          rcases List.mem_append.mp member with before | final
          · exact digits? y before
          · rw [List.mem_singleton.mp final, last, Option.isSome_some]

variable {after : List Char}

theorem ClosesValue.head_cases (h : ClosesValue after) :
    after.head? = none ∨ after.head? = some ',' ∨ after.head? = some ']' ∨
      after.head? = some '\x7d' := by
  cases after with
  | nil => exact .inl rfl
  | cons a more =>
      have member := h a rfl
      simpa using member

theorem ClosesValue.notDigit (h : ClosesValue after) : after.head?.bind digit? = none := by
  rcases h.head_cases with head | head | head | head <;> rw [head] <;> rfl

theorem digitsFrom_eq (ds : List Char) (digits? : ∀ y ∈ ds, (digit? y).isSome = true)
    (stops : after.head?.bind digit? = none) (line column : Nat) (done : List Nat) :
    digitsFrom ((ds ++ after).map Glyph.char) line column done =
      ((ds.filterMap digit?).reverse ++ done,
        ⟨after.map Glyph.char, line, column + ds.length⟩) := by
  induction ds generalizing column done with
  | nil =>
      cases after with
      | nil => rfl
      | cons a more =>
          have notDigit : digit? a = none := stops
          simp [digitsFrom, notDigit]
  | cons y rest ih =>
      obtain ⟨d, hd⟩ := Option.isSome_iff_exists.mp (digits? y List.mem_cons_self)
      have hrest := ih fun z member => digits? z (List.mem_cons_of_mem y member)
      simp only [List.cons_append, List.map_cons, digitsFrom, hd, List.filterMap_cons]
      rw [hrest]
      simp [Nat.add_assoc, Nat.add_comm 1]

theorem takes_digits (ds : List Char) (digits? : ∀ y ∈ ds, (digit? y).isSome = true)
    (stops : after.head?.bind digit? = none) :
    Takes digits (ds ++ after) (ds.filterMap digit?) after := by
  intro c h
  unfold Cursor.Faces at h
  refine ⟨⟨after.map Glyph.char, c.line, c.column + ds.length⟩, ?_, rfl⟩
  simp only [digits, h, digitsFrom_eq ds digits? stops]
  rw [List.append_nil, List.reverse_reverse]

/-- What is passed over of a numeral behind its sign. -/
def skipMagnitude : Scan Unit := do
  match digitAhead (← get) with
  | none => failAhead .badNumber
  | some 0 =>
    advance
    if (digitAhead (← get)).isSome then failAhead .badNumber
  | some _ =>
    let _ ← digits
  match (← get).char? with
  | some '.' =>
    advance
    if (digitAhead (← get)).isNone then failAhead .badNumber
    let _ ← digits
    match (← get).char? with
    | some 'e' | some 'E' => skipExponent
    | _ => pure ()
  | some 'e' | some 'E' => skipExponent
  | _ => pure ()

theorem skipNumeral_eq :
    skipNumeral = (do
      if (← get).char? == some '-' then advance
      skipMagnitude) := rfl

theorem takes_skipMagnitude (n : Nat) (closes : ClosesValue after) :
    Takes skipMagnitude (Decimal.natChars n ++ after) () after := by
  obtain ⟨x, more, d, chars, hx, zero, digits?⟩ := natChars_eq n
  rw [chars]
  refine .get_bind fun c h => ?_
  simp only [digitAhead, h.char?, List.cons_append, List.head?_cons, Option.bind_some, hx]
  rcases Nat.eq_zero_or_pos d with rfl | pos
  · rw [(zero rfl).2]
    refine (takes_advance x after).bind (.get_bind fun c h => ?_)
    simp only [h.char?, closes.notDigit, Option.isSome_none]
    refine .get_bind fun c h => ?_
    rcases closes.head_cases with head | head | head | head <;> rw [h.char?, head] <;>
      exact takes_pure () after
  · obtain ⟨d, rfl⟩ := Nat.exists_eq_add_one.mpr pos
    have all : ∀ y ∈ x :: more, (digit? y).isSome = true := by
      intro y member
      rcases List.mem_cons.mp member with rfl | later
      · rw [hx, Option.isSome_some]
      · exact digits? y later
    refine (takes_digits (x :: more) all closes.notDigit).bind (.get_bind fun c h => ?_)
    rcases closes.head_cases with head | head | head | head <;> rw [h.char?, head] <;>
      exact takes_pure () after

/-- Whether a numeral can begin so. -/
def BeginsNumeral (x : Char) : Prop := x = '-' ∨ (digit? x).isSome = true

instance (x : Char) : Decidable (BeginsNumeral x) := inferInstanceAs (Decidable (_ ∨ _))

theorem BeginsNumeral.ne {x y : Char} (h : BeginsNumeral x) (other : ¬BeginsNumeral y) : x ≠ y := by
  rintro rfl
  exact other h

theorem BeginsNumeral.solid {x : Char} (h : BeginsNumeral x) : solid x = true := by
  have space := h.ne (show ¬BeginsNumeral ' ' by decide)
  have tab := h.ne (show ¬BeginsNumeral '\t' by decide)
  have back := h.ne (show ¬BeginsNumeral '\r' by decide)
  have line := h.ne (show ¬BeginsNumeral '\n' by decide)
  simp [Cursor.solid, space, tab, back, line]

/-- No numeral is taken for null. -/
theorem BeginsNumeral.notNull {text : List Char}
    (begins : ∃ x more, text = x :: more ∧ BeginsNumeral x) : text.head? ≠ some 'n' := by
  obtain ⟨x, more, rfl, h⟩ := begins
  rw [List.head?_cons]
  exact fun same => h.ne (by decide) (Option.some.inj same)

theorem intChars_eq (i : Int) : ∃ x more, Decimal.intChars i = x :: more ∧ BeginsNumeral x := by
  unfold Decimal.intChars
  split
  · exact ⟨'-', _, rfl, .inl rfl⟩
  · obtain ⟨x, more, d, chars, hx, -⟩ := natChars_eq i.natAbs
    exact ⟨x, more, chars, .inr (by rw [hx, Option.isSome_some])⟩

theorem takes_skipNumeral (i : Int) (closes : ClosesValue after) :
    Takes skipNumeral (Decimal.intChars i ++ after) () after := by
  have magnitude := takes_skipMagnitude i.natAbs closes
  rw [skipNumeral_eq]
  unfold Decimal.intChars
  refine .get_bind fun c h => ?_
  split at h
  · rename_i negative
    simp only [h.char?, negative, if_true]
    exact (takes_advance '-' _).bind magnitude
  · rename_i positive
    obtain ⟨x, more, d, chars, hx, -⟩ := natChars_eq i.natAbs
    have other : x ≠ '-' := by
      rintro rfl
      have sign : digit? '-' = none := rfl
      rw [sign] at hx
      cases hx
    have noSign : (some x == some '-') = false := by simpa using other
    rw [chars] at h
    simp only [h.char?, positive, if_false, List.cons_append, List.head?_cons, noSign]
    exact magnitude

end AnswerGateway.Json
