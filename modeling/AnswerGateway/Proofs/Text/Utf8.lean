import AnswerGateway.Text.Utf8
import Mathlib.Data.List.Basic

/-!
A text that is written in UTF-8 and decoded again. Every character makes one glyph of its own bytes,
and the bytes below 128 are those of the characters with the same numbers, so a text can be searched
for such a character byte by byte.
-/

namespace AnswerGateway.Text

/-- What a byte starts, by its number. -/
private theorem startWith_eq (done : List Glyph) {b : UInt8} {n : Nat} (h : b.toNat = n) :
    startWith done b =
      if n < 0x80 then ⟨.char (Char.ofNat n) :: done, none⟩
      else if n < 0xC2 then ⟨.broken [b] :: done, none⟩
      else if n < 0xE0 then ⟨done, some ⟨[b], n % 32, 1, 0x80, 0xBF⟩⟩
      else if n = 0xE0 then ⟨done, some ⟨[b], n % 16, 2, 0xA0, 0xBF⟩⟩
      else if n = 0xED then ⟨done, some ⟨[b], n % 16, 2, 0x80, 0x9F⟩⟩
      else if n < 0xF0 then ⟨done, some ⟨[b], n % 16, 2, 0x80, 0xBF⟩⟩
      else if n = 0xF0 then ⟨done, some ⟨[b], n % 8, 3, 0x90, 0xBF⟩⟩
      else if n < 0xF4 then ⟨done, some ⟨[b], n % 8, 3, 0x80, 0xBF⟩⟩
      else if n = 0xF4 then ⟨done, some ⟨[b], n % 8, 3, 0x80, 0x8F⟩⟩
      else ⟨.broken [b] :: done, none⟩ := by
  subst h
  simp only [startWith, UInt8.lt_iff_toNat_lt, ← UInt8.toNat_inj, UInt8.reduceToNat]

/-- The last byte of a character, within its bounds. -/
private theorem step_last (done : List Glyph) (bytes : List UInt8) (bits : Nat)
    (low high : UInt8) {b : UInt8} {n : Nat} (h : b.toNat = n) (above : low.toNat ≤ n)
    (below : n ≤ high.toNat) :
    Decoding.step ⟨done, some ⟨bytes, bits, 1, low, high⟩⟩ b =
      ⟨.char (Char.ofNat (bits * 64 + n % 64)) :: done, none⟩ := by
  subst h
  simp only [Decoding.step, UInt8.le_iff_toNat_le, above, below, and_self, if_true, Nat.le_refl]

/-- A byte of a character that owes more. -/
private theorem step_more (done : List Glyph) (bytes : List UInt8) (bits owed : Nat)
    (low high : UInt8) {b : UInt8} {n : Nat} (h : b.toNat = n) (above : low.toNat ≤ n)
    (below : n ≤ high.toNat) :
    Decoding.step ⟨done, some ⟨bytes, bits, owed + 2, low, high⟩⟩ b =
      ⟨done, some ⟨bytes ++ [b], bits * 64 + n % 64, owed + 1, 0x80, 0xBF⟩⟩ := by
  subst h
  have owes : ¬owed + 2 ≤ 1 := by omega
  simp only [Decoding.step, UInt8.le_iff_toNat_le, above, below, and_self, if_true, owes, if_false,
    Nat.add_one_sub_one]

private theorem toNat_ofNat {n : Nat} (bound : n < 256) : (UInt8.ofNat n).toNat = n := by
  rw [UInt8.toNat_ofNat']
  omega

variable {a b d e : UInt8} {i j k l v : Nat}

private theorem steps_two (done : List Glyph) (ha : a.toNat = i) (hb : b.toNat = j)
    (lead : 0xC2 ≤ i ∧ i < 0xE0) (second : 0x80 ≤ j ∧ j ≤ 0xBF)
    (value : i % 32 * 64 + j % 64 = v) :
    [a, b].foldl Decoding.step ⟨done, none⟩ = ⟨.char (Char.ofNat v) :: done, none⟩ := by
  have hfirst : Decoding.step ⟨done, none⟩ a = ⟨done, some ⟨[a], i % 32, 1, 0x80, 0xBF⟩⟩ := by
    have hstart := startWith_eq done ha
    rwa [if_neg (by omega), if_neg (by omega), if_pos lead.2] at hstart
  rw [List.foldl_cons, List.foldl_cons, List.foldl_nil, hfirst,
    step_last done [a] _ 0x80 0xBF hb second.1 second.2, value]

private theorem steps_three (done : List Glyph) (ha : a.toNat = i) (hb : b.toNat = j)
    (hd : d.toNat = k) (lead : 0xE0 ≤ i ∧ i < 0xF0) (second : 0x80 ≤ j ∧ j ≤ 0xBF)
    (notOverlong : i = 0xE0 → 0xA0 ≤ j) (notSurrogate : i = 0xED → j ≤ 0x9F)
    (third : 0x80 ≤ k ∧ k ≤ 0xBF) (value : (i % 16 * 64 + j % 64) * 64 + k % 64 = v) :
    [a, b, d].foldl Decoding.step ⟨done, none⟩ = ⟨.char (Char.ofNat v) :: done, none⟩ := by
  obtain ⟨low, high, hfirst, hlow, hhigh⟩ : ∃ low high : UInt8,
      Decoding.step ⟨done, none⟩ a = ⟨done, some ⟨[a], i % 16, 2, low, high⟩⟩ ∧
        low.toNat ≤ j ∧ j ≤ high.toNat := by
    have hstart := startWith_eq done ha
    rw [if_neg (by omega), if_neg (by omega), if_neg (by omega)] at hstart
    by_cases least : i = 0xE0
    · rw [if_pos least] at hstart
      exact ⟨_, _, hstart, notOverlong least, second.2⟩
    · rw [if_neg least] at hstart
      by_cases surrogates : i = 0xED
      · rw [if_pos surrogates] at hstart
        exact ⟨_, _, hstart, second.1, notSurrogate surrogates⟩
      · rw [if_neg surrogates, if_pos lead.2] at hstart
        exact ⟨_, _, hstart, second⟩
  rw [List.foldl_cons, List.foldl_cons, List.foldl_cons, List.foldl_nil, hfirst,
    step_more done [a] _ 0 low high hb hlow hhigh,
    step_last done _ _ 0x80 0xBF hd third.1 third.2, value]

private theorem steps_four (done : List Glyph) (ha : a.toNat = i) (hb : b.toNat = j)
    (hd : d.toNat = k) (he : e.toNat = l) (lead : 0xF0 ≤ i ∧ i ≤ 0xF4)
    (second : 0x80 ≤ j ∧ j ≤ 0xBF) (notOverlong : i = 0xF0 → 0x90 ≤ j)
    (inRange : i = 0xF4 → j ≤ 0x8F) (third : 0x80 ≤ k ∧ k ≤ 0xBF) (fourth : 0x80 ≤ l ∧ l ≤ 0xBF)
    (value : ((i % 8 * 64 + j % 64) * 64 + k % 64) * 64 + l % 64 = v) :
    [a, b, d, e].foldl Decoding.step ⟨done, none⟩ = ⟨.char (Char.ofNat v) :: done, none⟩ := by
  obtain ⟨low, high, hfirst, hlow, hhigh⟩ : ∃ low high : UInt8,
      Decoding.step ⟨done, none⟩ a = ⟨done, some ⟨[a], i % 8, 3, low, high⟩⟩ ∧
        low.toNat ≤ j ∧ j ≤ high.toNat := by
    have hstart := startWith_eq done ha
    rw [if_neg (by omega), if_neg (by omega), if_neg (by omega), if_neg (by omega),
      if_neg (by omega), if_neg (by omega)] at hstart
    by_cases least : i = 0xF0
    · rw [if_pos least] at hstart
      exact ⟨_, _, hstart, notOverlong least, second.2⟩
    · rw [if_neg least] at hstart
      by_cases last : i = 0xF4
      · rw [if_neg (by omega), if_pos last] at hstart
        exact ⟨_, _, hstart, second.1, inRange last⟩
      · rw [if_pos (by omega)] at hstart
        exact ⟨_, _, hstart, second⟩
  rw [List.foldl_cons, List.foldl_cons, List.foldl_cons, List.foldl_cons, List.foldl_nil, hfirst,
    step_more done [a] _ 1 low high hb hlow hhigh,
    step_more done _ _ 0 0x80 0xBF hd third.1 third.2,
    step_last done _ _ 0x80 0xBF he fourth.1 fourth.2, value]

/-- The bytes of a character are decoded to it. -/
theorem steps_encoded (done : List Glyph) (c : Char) :
    (String.utf8EncodeChar c).foldl Decoding.step ⟨done, none⟩ = ⟨.char c :: done, none⟩ := by
  have valid : c.toNat < 0xD800 ∨ 0xDFFF < c.toNat ∧ c.toNat < 0x110000 := c.valid
  have same : c.val.toNat = c.toNat := rfl
  unfold String.utf8EncodeChar
  rw [same]
  conv_rhs => rw [← Char.ofNat_toNat c]
  generalize c.toNat = v at valid
  by_cases one : v ≤ 0x7F
  · simp only [one, if_true]
    have hstart := startWith_eq done (toNat_ofNat (show v < 256 by omega))
    rw [if_pos (by omega)] at hstart
    exact hstart
  · by_cases two : v ≤ 0x7FF
    · simp only [one, two, if_true, if_false]
      apply steps_two done (toNat_ofNat _) (toNat_ofNat _) <;> omega
    · by_cases three : v ≤ 0xFFFF
      · simp only [one, two, three, if_true, if_false]
        apply steps_three done (toNat_ofNat _) (toNat_ofNat _) (toNat_ofNat _) <;> omega
      · simp only [one, two, three, if_false]
        apply steps_four done (toNat_ofNat _) (toNat_ofNat _) (toNat_ofNat _)
          (toNat_ofNat _) <;> omega

theorem glyphs_utf8 (text : String) : glyphs (utf8 text) = glyphsOf text := by
  have fold (cs : List Char) (done : List Glyph) :
      (cs.flatMap String.utf8EncodeChar).foldl Decoding.step ⟨done, none⟩ =
        ⟨(cs.map Glyph.char).reverse ++ done, none⟩ := by
    induction cs generalizing done with
    | nil => rfl
    | cons c rest ih =>
        rw [List.flatMap_cons, List.foldl_append, steps_encoded, ih]
        simp
  simp [glyphs, utf8, fold, Decoding.finish, glyphsOf]

theorem decodeLossy_utf8 (text : String) : decodeLossy (utf8 text) = text := by
  have shown : Glyph.shown ∘ Glyph.char = id := rfl
  simp [decodeLossy, glyphs_utf8, glyphsOf, shown]

/-- A byte below 128 is a character of its own. -/
theorem toNat_of_mem_encoded {c : Char} (member : b ∈ String.utf8EncodeChar c)
    (small : b.toNat < 0x80) : b.toNat = c.toNat := by
  have large {n : Nat} (bounds : 0x80 ≤ n ∧ n < 256) : b ≠ UInt8.ofNat n := by
    rintro rfl
    rw [toNat_ofNat bounds.2] at small
    omega
  have same : c.val.toNat = c.toNat := rfl
  unfold String.utf8EncodeChar at member
  rw [same] at member
  by_cases one : c.toNat ≤ 0x7F
  · simp only [one, if_true, List.mem_singleton] at member
    rw [member, toNat_ofNat (by omega)]
  · simp only [one, if_false] at member
    -- Every byte of a longer character is at least 128.
    by_cases two : c.toNat ≤ 0x7FF
    · simp only [two, if_true, List.mem_cons, List.not_mem_nil, or_false] at member
      rcases member with hb | hb <;> exact absurd hb (large (by omega))
    · by_cases three : c.toNat ≤ 0xFFFF
      · simp only [two, three, if_true, if_false, List.mem_cons, List.not_mem_nil,
          or_false] at member
        rcases member with hb | hb | hb <;> exact absurd hb (large (by omega))
      · simp only [two, three, if_false, List.mem_cons, List.not_mem_nil, or_false] at member
        rcases member with hb | hb | hb | hb <;> exact absurd hb (large (by omega))

theorem mem_of_mem_utf8 {text : String} (member : b ∈ utf8 text) (small : b.toNat < 0x80) :
    Char.ofNat b.toNat ∈ text.toList := by
  obtain ⟨c, hc, hb⟩ := List.mem_flatMap.mp member
  rw [toNat_of_mem_encoded hb small, Char.ofNat_toNat]
  exact hc

/-- Whether a decoder takes no byte below 128 for the next one of an unfinished character. -/
def Decoding.Waits (d : Decoding) : Prop := ∀ u, d.begun = some u → 0x80 ≤ u.low

namespace Decoding

theorem waits_startWith (done : List Glyph) (b : UInt8) : (startWith done b).Waits := by
  intro u begun
  unfold startWith at begun
  dsimp only at begun
  split_ifs at begun <;> cases begun <;> simp

theorem waits_step {d : Decoding} (b : UInt8) : (d.step b).Waits := by
  unfold step
  split
  · exact waits_startWith d.glyphs b
  · split
    · split
      · intro u begun
        cases begun
      · intro u begun
        cases begun
        simp
    · exact waits_startWith _ b

theorem waits_steps (bytes : List UInt8) : (bytes.foldl step ⟨[], none⟩).Waits := by
  rcases List.eq_nil_or_concat bytes with rfl | ⟨first, last, rfl⟩
  · exact fun u begun => nomatch begun
  · rw [List.concat_eq_append, List.foldl_append]
    exact waits_step last

/-- A byte below 128 is a character of its own, and breaks off the one before it. -/
theorem finish_step_small {d : Decoding} (waits : d.Waits) {b : UInt8} (small : b < 0x80) :
    (d.step b).finish = d.finish ++ [.char (Char.ofNat b.toNat)] := by
  have start (done : List Glyph) :
      startWith done b = ⟨.char (Char.ofNat b.toNat) :: done, none⟩ := by
    simp [startWith, small]
  unfold step
  split
  · rename_i begun
    simp [start, finish, begun]
  · rename_i u begun
    have below : ¬u.low ≤ b := UInt8.not_le.mpr (UInt8.lt_of_lt_of_le small (waits u begun))
    simp [start, finish, begun, below]

end Decoding

/-- A byte below 128 behind others is one more character. -/
theorem decodeLossy_concat (bytes : List UInt8) {b : UInt8} (small : b < 0x80) :
    (decodeLossy (bytes ++ [b])).toList =
      (decodeLossy bytes).toList ++ [Char.ofNat b.toNat] := by
  have hfinish := Decoding.finish_step_small (Decoding.waits_steps bytes) small
  simp [decodeLossy, glyphs, hfinish, Glyph.shown]

end AnswerGateway.Text
