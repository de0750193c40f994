import AnswerGateway.Json.Written
import Mathlib.Tactic.SplitIfs

/-!
Written documents have no control characters, whatever texts are in them. So a document stands on
one line, and that line is all of it.
-/

namespace AnswerGateway.JsonText

/-- A text without control characters. -/
def Plain (text : List Char) : Prop := ∀ a ∈ text, 0x20 ≤ a.toNat

instance (text : List Char) : Decidable (Plain text) :=
  decidable_of_iff (text.all (0x20 ≤ ·.toNat) = true) (by simp [Plain])

theorem plain_nil : Plain [] := fun _ member => nomatch member

theorem Plain.cons {x : Char} {text : List Char} (hx : 0x20 ≤ x.toNat) (h : Plain text) :
    Plain (x :: text) := by
  intro a member
  rcases List.mem_cons.mp member with rfl | later
  · exact hx
  · exact h a later

theorem Plain.append {first second : List Char} (h : Plain first) (h' : Plain second) :
    Plain (first ++ second) := by
  intro a member
  rcases List.mem_append.mp member with before | behind
  · exact h a before
  · exact h' a behind

theorem Plain.notMem {text : List Char} (h : Plain text) {x : Char} (control : x.toNat < 0x20) :
    x ∉ text :=
  fun member => Nat.not_le.mpr control (h x member)

theorem plain_flatMap {α : Type} {items : List α} {write : α → List Char}
    (each : ∀ b ∈ items, Plain (write b)) : Plain (items.flatMap write) := by
  intro a member
  obtain ⟨b, hb, ha⟩ := List.mem_flatMap.mp member
  exact each b hb a ha

theorem plain_hexDigit (n : Nat) : 0x20 ≤ (hexDigit n).toNat := by
  have table : ∀ k < 16, 0x20 ≤ (Nat.digitChar k).toNat := by decide
  exact table (n % 16) (Nat.mod_lt n (by decide))

/-- Control characters are escaped. -/
theorem plain_escape (a : Char) : Plain (escape a) := by
  unfold escape
  split_ifs with quote slash back feed line ret tab control
  iterate 7 decide
  · simp [Plain, plain_hexDigit]
  · simpa [Plain] using control

theorem plain_quote (text : String) : Plain (quote text) :=
  ((plain_flatMap fun a _ => plain_escape a).cons (by decide)).append (plain_nil.cons (by decide))

theorem plain_natural (n : Nat) : Plain (natural n) := by
  intro a member
  have digit := Nat.isDigit_of_mem_toDigits (by decide) (by decide) member
  have least : '0' ≤ a := by
    simp only [Char.isDigit, Bool.and_eq_true, decide_eq_true_eq] at digit
    exact digit.1
  exact Nat.le_trans (by decide) (Char.le_def.mp least)

theorem plain_whole (i : Int) : Plain (whole i) := by
  unfold whole Decimal.intChars
  split
  · exact (plain_natural i.natAbs).cons (by decide)
  · exact plain_natural i.natAbs

theorem plain_commas {texts : List (List Char)} (each : ∀ text ∈ texts, Plain text) :
    Plain (commas texts) := by
  induction texts with
  | nil => exact plain_nil
  | cons first rest ih =>
      have hfirst := each first List.mem_cons_self
      have hrest := ih fun text member => each text (List.mem_cons_of_mem _ member)
      cases rest with
      | nil => exact hfirst
      | cons second more => exact hfirst.append (hrest.cons (by decide))

theorem plain_list {texts : List (List Char)} (each : ∀ text ∈ texts, Plain text) :
    Plain (list texts) :=
  ((plain_commas each).cons (by decide)).append (plain_nil.cons (by decide))

theorem plain_object {parts : List (String × List Char)} (each : ∀ part ∈ parts, Plain part.2) :
    Plain (object parts) := by
  have fields : Plain (commas (parts.map fun part => quote part.1 ++ ':' :: part.2)) := by
    apply plain_commas
    intro text member
    obtain ⟨part, hpart, rfl⟩ := List.mem_map.mp member
    exact (plain_quote part.1).append ((each part hpart).cons (by decide))
  exact (fields.cons (by decide)).append (plain_nil.cons (by decide))

theorem plain_literalNull : Plain literalNull := by decide

end AnswerGateway.JsonText
