import AnswerGateway.Json.Written
import AnswerGateway.Proofs.Json.Scan
import Mathlib.Tactic.SplitIfs

/-!
A text between quotes is read as it was written, whatever characters it has. How a character is
spelled is one of three ways, and a reader goes on behind the spelling in each of them.
-/

namespace AnswerGateway.Json

open Text (Glyph hexValue?)
open Cursor Scan

/-- The spellings of a character between quotes. -/
inductive Spells (a : Char) : List Char → Prop where
  | itself (notQuote : a ≠ '"') (notEscape : a ≠ '\\') (shown : 0x20 ≤ a.toNat) : Spells a [a]
  | letter {l : Char} (stands : escapeLetter? l = some a) : Spells a ['\\', l]
  | number {x y : Char} (control : a.toNat < 0x20) (high : hexValue? x = some (a.toNat / 16))
      (low : hexValue? y = some (a.toNat % 16)) : Spells a ['\\', 'u', '0', '0', x, y]

theorem hexValue?_hexDigit (n : Nat) : hexValue? (JsonText.hexDigit n) = some (n % 16) := by
  have table : ∀ k < 16, hexValue? (Nat.digitChar k) = some k := by decide
  exact table (n % 16) (Nat.mod_lt n (by decide))

theorem spells_escape (a : Char) : Spells a (JsonText.escape a) := by
  unfold JsonText.escape
  split_ifs with quote slash back feed line ret tab control
  -- Seven characters are spelled by a letter.
  iterate 7
    subst a
    exact .letter rfl
  · have small : a.toNat / 16 % 16 = a.toNat / 16 := by omega
    have high := hexValue?_hexDigit (a.toNat / 16)
    rw [small] at high
    exact .number control high (hexValue?_hexDigit a.toNat)
  · exact .itself quote slash (Nat.not_lt.mp control)

variable {c : Cursor} {a : Char} {spelling after : List Char}

theorem readHex4_faces {x y : Char} {high low : Nat} (h : c.Faces ('0' :: '0' :: x :: y :: after))
    (hx : hexValue? x = some high) (hy : hexValue? y = some low) :
    ∃ c', readHex4 c = .ok (high * 16 + low, c') ∧ c'.Faces after := by
  have zero : hexValue? '0' = some 0 := by decide
  refine ⟨⟨after.map Glyph.char, c.line, c.column + 4⟩, ?_, rfl⟩
  unfold Faces at h
  simp [readHex4, h, zero, hx, hy]

/-- An escape by number that stands for a control character. -/
theorem readUnicodeEscape_control {x y : Char} (h : c.Faces ('0' :: '0' :: x :: y :: after))
    (control : a.toNat < 0x20) (high : hexValue? x = some (a.toNat / 16))
    (low : hexValue? y = some (a.toNat % 16)) :
    ∃ c', readUnicodeEscape c = .ok (a, c') ∧ c'.Faces after := by
  obtain ⟨c', hhex, hc'⟩ := readHex4_faces h high low
  have value : a.toNat / 16 * 16 + a.toNat % 16 = a.toNat := by omega
  have single : ¬(0xDC00 ≤ a.toNat ∧ a.toNat ≤ 0xDFFF) := by omega
  have alone : a.toNat < 0xD800 ∨ 0xDBFF < a.toNat := by omega
  rw [value] at hhex
  refine ⟨c', ?_, hc'⟩
  unfold readUnicodeEscape
  rw [hhex]
  show (if _ then _ else if _ then _ else _) = _
  rw [if_neg single, if_pos alone, Char.ofNat_toNat]

/-- A reader of quoted texts takes a character for its spelling. -/
theorem Spells.read (spells : Spells a spelling) (h : c.Faces (spelling ++ after)) (fuel : Nat)
    (done : List Char) :
    ∃ c', readQuotedFrom (fuel + 1) c done none = readQuotedFrom fuel c' (a :: done) none ∧
      c'.Faces after := by
  have rest := h
  unfold Faces at rest
  cases spells with
  | itself notQuote notEscape shown =>
      have inside : ¬a.toNat < 0x20 := Nat.not_lt.mpr shown
      refine ⟨c.next, ?_, h.next⟩
      simp [readQuotedFrom, rest, notQuote, notEscape, inside]
  | @letter l stands =>
      have notNumber : l ≠ 'u' := by
        rintro rfl
        cases stands
      have escape : readEscape c.next = .ok (a, c.next.next) := by
        simp [readEscape, h.next.atEnd, h.next.char?, notNumber, stands]
      refine ⟨c.next.next, ?_, h.next.next⟩
      simp [readQuotedFrom, rest, escape]
  | number control high low =>
      obtain ⟨c', hescape, hc'⟩ := readUnicodeEscape_control h.next.next control high low
      have escape : readEscape c.next = .ok (a, c') := by
        simp [readEscape, h.next.atEnd, h.next.char?, hescape]
      refine ⟨c', ?_, hc'⟩
      simp [readQuotedFrom, rest, escape]

/-- So does one that passes over them. -/
theorem Spells.skip (spells : Spells a spelling) (h : c.Faces (spelling ++ after)) (fuel : Nat) :
    ∃ c', skipQuotedFrom (fuel + 1) c = skipQuotedFrom fuel c' ∧ c'.Faces after := by
  have rest := h
  unfold Faces at rest
  cases spells with
  | itself notQuote notEscape shown =>
      have inside : ¬a.toNat < 0x20 := Nat.not_lt.mpr shown
      refine ⟨c.next, ?_, h.next⟩
      simp [skipQuotedFrom, rest, notQuote, notEscape, inside]
  | @letter l stands =>
      have notNumber : l ≠ 'u' := by
        rintro rfl
        cases stands
      refine ⟨c.next.next, ?_, h.next.next⟩
      simp [skipQuotedFrom, rest, h.next.atEnd, h.next.char?, notNumber, stands]
  | number control high low =>
      obtain ⟨c', hhex, hc'⟩ := readHex4_faces h.next.next high low
      refine ⟨c', ?_, hc'⟩
      simp [skipQuotedFrom, rest, h.next.atEnd, h.next.char?, hhex]

/-- Every character takes at most one step, so the steps need not be more than the characters. -/
theorem readQuotedFrom_faces (text done : List Char) (spare : Nat)
    (h : c.Faces (text.flatMap JsonText.escape ++ '"' :: after)) :
    ∃ c', readQuotedFrom (text.length + spare + 1) c done none =
        .ok (String.ofList (done.reverse ++ text), c') ∧ c'.Faces after := by
  induction text generalizing c done with
  | nil =>
      have rest := h
      unfold Faces at rest
      exact ⟨c.next, by simp [readQuotedFrom, rest], h.next⟩
  | cons a rest ih =>
      rw [List.flatMap_cons, List.append_assoc] at h
      obtain ⟨c', hstep, hc'⟩ := (spells_escape a).read h (rest.length + spare + 1) done
      obtain ⟨c'', hread, hc''⟩ := ih (a :: done) hc'
      refine ⟨c'', ?_, hc''⟩
      rw [length_cons_spare, hstep, hread, List.reverse_cons, List.append_assoc,
        List.singleton_append]

theorem skipQuotedFrom_faces (text : List Char) (spare : Nat)
    (h : c.Faces (text.flatMap JsonText.escape ++ '"' :: after)) :
    ∃ c', skipQuotedFrom (text.length + spare + 1) c = .ok ((), c') ∧ c'.Faces after := by
  induction text generalizing c with
  | nil =>
      have rest := h
      unfold Faces at rest
      exact ⟨c.next, by simp [skipQuotedFrom, rest], h.next⟩
  | cons a rest ih =>
      rw [List.flatMap_cons, List.append_assoc] at h
      obtain ⟨c', hstep, hc'⟩ := (spells_escape a).skip h (rest.length + spare + 1)
      obtain ⟨c'', hread, hc''⟩ := ih hc'
      refine ⟨c'', ?_, hc''⟩
      rw [length_cons_spare, hstep, hread]

theorem Spells.length_pos (h : Spells a spelling) : 0 < spelling.length := by
  cases h <;> simp

theorem length_le_escaped (text : List Char) :
    text.length ≤ (text.flatMap JsonText.escape).length := by
  induction text with
  | nil => exact Nat.le_refl 0
  | cons a rest ih =>
      have first := (spells_escape a).length_pos
      rw [List.flatMap_cons, List.length_append, List.length_cons]
      omega

theorem takes_readQuoted (text : String) (after : List Char) :
    Takes readQuoted (text.toList.flatMap JsonText.escape ++ '"' :: after) text after := by
  intro c h
  obtain ⟨spare, steps⟩ := h.exists_spare (length_le_escaped text.toList)
  obtain ⟨c', hread, hc'⟩ := readQuotedFrom_faces text.toList [] spare h
  refine ⟨c', ?_, hc'⟩
  rw [readQuoted, steps, hread]
  simp

theorem takes_skipQuoted (text : String) (after : List Char) :
    Takes skipQuoted (text.toList.flatMap JsonText.escape ++ '"' :: after) () after := by
  intro c h
  obtain ⟨spare, steps⟩ := h.exists_spare (length_le_escaped text.toList)
  obtain ⟨c', hskip, hc'⟩ := skipQuotedFrom_faces text.toList spare h
  refine ⟨c', ?_, hc'⟩
  rw [skipQuoted, steps, hskip]

end AnswerGateway.Json
