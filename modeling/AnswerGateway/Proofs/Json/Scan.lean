import AnswerGateway.Json.TextFormat

/-!
What the steps of reading take from a text that is all characters. The place that a cursor counts
does not matter to what is read, so a step is described by the text before it and the text behind it
alone, and steps are joined where the one's text behind is the other's before.
-/

namespace AnswerGateway.Json

open Text (Glyph)

namespace Cursor

/-- Whether this text is what is left to be read. -/
def Faces (c : Cursor) (text : List Char) : Prop := c.rest = text.map Glyph.char

/-- Whether a character is none of those that are skipped between values. -/
def solid (a : Char) : Bool := !([' ', '\t', '\r', '\n'].contains a)

variable {c : Cursor} {a : Char} {text : List Char}

theorem Faces.next (h : c.Faces (a :: text)) : c.next.Faces text := by
  unfold Faces at h ⊢
  unfold Cursor.next
  rw [h, List.map_cons]
  split
  · rename_i none
    cases none
  · rename_i rest same
    exact (List.cons.inj same).2.symm
  · rename_i same
    exact (List.cons.inj same).2.symm

theorem Faces.char? (h : c.Faces text) : c.char? = text.head? := by
  unfold Faces at h
  unfold Cursor.char?
  rw [h]
  cases text <;> rfl

theorem Faces.atEnd (h : c.Faces text) : c.atEnd = text.isEmpty := by
  unfold Faces at h
  unfold Cursor.atEnd
  rw [h]
  cases text <;> rfl

/-- Nothing is skipped where no blank stands. -/
theorem Faces.skip (h : c.Faces (a :: text)) (stands : solid a = true) :
    c.skip.Faces (a :: text) := by
  have notBlank : a ≠ ' ' ∧ a ≠ '\t' ∧ a ≠ '\r' ∧ a ≠ '\n' := by simpa [solid] using stands
  obtain ⟨space, tab, back, line⟩ := notBlank
  unfold Faces at h ⊢
  simp [Cursor.skip, h, skipFrom, space, tab, back, line]

/-- Readers make as many steps as there are glyphs, which is enough for all the parts of a text. -/
theorem Faces.exists_spare {tail : List Char} {count : Nat} (h : c.Faces (text ++ tail))
    (enough : count ≤ text.length) : ∃ spare, c.rest.length + 1 = count + spare + 1 := by
  unfold Faces at h
  rw [h, List.length_map, List.length_append]
  exact ⟨_, by rw [Nat.add_sub_of_le (Nat.le_add_right_of_le enough)]⟩

/-- One part more takes one step more. -/
theorem length_cons_spare {α : Type} (part : α) (rest : List α) (spare : Nat) :
    (part :: rest).length + spare + 1 = rest.length + spare + 1 + 1 := by
  rw [List.length_cons]
  omega

end Cursor

namespace Scan

open Cursor

variable {α β : Type}

/-- A step of reading that makes `a` of what stands before `after` in the text `before`. -/
def Takes (p : Scan α) (before : List Char) (a : α) (after : List Char) : Prop :=
  ∀ c : Cursor, c.Faces before → ∃ c', p c = .ok (a, c') ∧ c'.Faces after

variable {p : Scan α} {before middle after : List Char} {a : α} {b : β} {x : Char}

theorem takes_pure (a : α) (text : List Char) : Takes (pure a) text a text :=
  fun c h => ⟨c, rfl, h⟩

theorem Takes.bind {f : α → Scan β} (first : Takes p before a middle)
    (second : Takes (f a) middle b after) : Takes (p >>= f) before b after := by
  intro c h
  obtain ⟨c', hfirst, h'⟩ := first c h
  obtain ⟨c'', hsecond, h''⟩ := second c' h'
  refine ⟨c'', ?_, h''⟩
  rw [← hsecond]
  exact congrArg (· >>= fun r => f r.1 r.2) hfirst

theorem Takes.map (f : α → β) (h : Takes p before a after) :
    Takes (f <$> p) before (f a) after := by
  rw [map_eq_pure_bind]
  exact h.bind (takes_pure _ _)

theorem Takes.within (step : PathStep) (h : Takes p before a after) :
    Takes (within step p) before a after := by
  intro c hc
  obtain ⟨c', hp, hc'⟩ := h c hc
  refine ⟨c', ?_, hc'⟩
  simp only [Scan.within, hp]

theorem takes_advance (x : Char) (text : List Char) : Takes advance (x :: text) () text :=
  fun c h => ⟨c.next, rfl, h.next⟩

theorem takes_peekToken (text : List Char) (stands : solid x = true) :
    Takes peekToken (x :: text) (some x) (x :: text) := by
  intro c h
  have hskip := h.skip stands
  exact ⟨c.skip, by rw [peekToken, hskip.char?, List.head?_cons], hskip⟩

theorem takes_isDone (text : List Char) : Takes isDone text text.isEmpty text :=
  fun c h => ⟨c, by rw [isDone, h.atEnd], h⟩

theorem takes_valueAhead (text : List Char) (stands : solid x = true) :
    Takes valueAhead (x :: text) (some x) (x :: text) :=
  (takes_peekToken text stands).bind ((takes_isDone _).bind (takes_pure _ _))

theorem Takes.get_bind {f : Cursor → Scan β}
    (h : ∀ c, c.Faces before → Takes (f c) before b after) : Takes (get >>= f) before b after :=
  fun c hc => h c hc c hc

theorem takes_readWord (word text : List Char) : Takes (readWord word) (word ++ text) () text := by
  induction word with
  | nil => exact takes_pure () text
  | cons x rest ih =>
      refine .get_bind fun c h => ?_
      simp only [h.atEnd, h.char?, List.cons_append, List.isEmpty_cons, List.head?_cons]
      exact (takes_advance x (rest ++ text)).bind ih

/-! What the steps between values take. -/

theorem takes_readColon (text : List Char) : Takes readColon (':' :: text) () text :=
  (takes_peekToken _ rfl).bind ((takes_isDone _).bind (takes_advance ':' text))

theorem takes_endObject (text : List Char) : Takes endObject ('\x7d' :: text) () text :=
  (takes_peekToken _ rfl).bind (takes_advance '\x7d' text)

theorem takes_endList (text : List Char) : Takes endList (']' :: text) () text :=
  (takes_peekToken _ rfl).bind (takes_advance ']' text)

theorem takes_fieldFollows_first (text : List Char) :
    Takes (fieldFollows true) ('"' :: text) true ('"' :: text) :=
  (takes_peekToken _ rfl).bind ((takes_isDone _).bind (takes_pure true _))

theorem takes_fieldFollows_next (text : List Char) :
    Takes (fieldFollows false) (',' :: '"' :: text) true ('"' :: text) :=
  (takes_peekToken _ rfl).bind ((takes_isDone _).bind ((takes_advance ',' _).bind
    ((takes_peekToken _ rfl).bind ((takes_isDone _).bind (takes_pure true _)))))

theorem takes_fieldFollows_end (first : Bool) (text : List Char) :
    Takes (fieldFollows first) ('\x7d' :: text) false ('\x7d' :: text) :=
  (takes_peekToken _ rfl).bind ((takes_isDone _).bind (takes_pure false _))

theorem takes_itemFollows_first (text : List Char) (stands : solid x = true) (open? : x ≠ ']') :
    Takes (itemFollows true) (x :: text) true (x :: text) := by
  refine (takes_peekToken _ stands).bind ((takes_isDone _).bind ?_)
  have other : some x ≠ some ']' := by simpa using open?
  simp only [other]
  exact takes_pure true _

theorem takes_itemFollows_next (text : List Char) (stands : solid x = true) (open? : x ≠ ']') :
    Takes (itemFollows false) (',' :: x :: text) true (x :: text) := by
  refine (takes_peekToken _ rfl).bind ((takes_isDone _).bind ((takes_advance ',' _).bind
    ((takes_peekToken _ stands).bind ((takes_isDone _).bind ?_))))
  have other : some x ≠ some ']' := by simpa using open?
  simp only [other]
  exact takes_pure true _

theorem takes_itemFollows_end (first : Bool) (text : List Char) :
    Takes (itemFollows first) (']' :: text) false (']' :: text) :=
  (takes_peekToken _ rfl).bind ((takes_isDone _).bind (takes_pure false _))

theorem Takes.closing {close : Char} {finish : Scan Unit} (body : Takes p before a middle)
    (finish? : Takes finish middle () after) : Takes (closing close finish p) before a after := by
  intro c h
  obtain ⟨c', hbody, h'⟩ := body c h
  obtain ⟨c'', hfinish, h''⟩ := finish? c' h'
  refine ⟨c'', ?_, h''⟩
  simp only [Json.closing, hbody, hfinish]
  rfl

end Scan

end AnswerGateway.Json
