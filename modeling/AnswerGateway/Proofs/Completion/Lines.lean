import AnswerGateway.Completion.Sse
import AnswerGateway.Proofs.Text.Utf8

/-!
The lines of a body, said of all its bytes at once. A line ends with a line feed; what stands behind
the last one is unfinished. A buffer that is given the bytes in pieces knows neither more nor less,
wherever the pieces are cut: inside a character, or between the two bytes that end a line.
-/

namespace AnswerGateway.Completion

/-- The finished lines of a body, without their ends. -/
def linesOf (bytes : List UInt8) : List String :=
  (bytes.splitOn lineFeed).dropLast.map fun line => Text.decodeLossy (dropReturn line)

/-- The bytes behind the last line feed. -/
def unfinished (bytes : List UInt8) : List UInt8 := (bytes.splitOn lineFeed).getLast?.getD []

theorem unfinished_of_notMem {bytes : List UInt8} (h : lineFeed ∉ bytes) :
    unfinished bytes = bytes := by
  simp [unfinished, List.splitOn_eq_singleton h]

theorem unfinished_append_lineFeed (before after : List UInt8) :
    unfinished (before ++ lineFeed :: after) = unfinished after := by
  obtain ⟨last, hlast⟩ := Option.isSome_iff_exists.mp
    (List.getLast?_isSome.mpr (List.splitOn_ne_nil lineFeed after))
  unfold unfinished
  rw [List.splitOn_append_cons_self, List.getLast?_append, hlast, Option.some_or]

theorem linesOf_of_notMem {bytes : List UInt8} (h : lineFeed ∉ bytes) : linesOf bytes = [] := by
  simp [linesOf, List.splitOn_eq_singleton h]

theorem linesOf_append_lineFeed {before : List UInt8} (h : lineFeed ∉ before)
    (after : List UInt8) :
    linesOf (before ++ lineFeed :: after) =
      Text.decodeLossy (dropReturn before) :: linesOf after := by
  have hafter := List.splitOn_ne_nil lineFeed after
  unfold linesOf
  rw [List.splitOn_append_cons_self, List.splitOn_eq_singleton h, List.singleton_append,
    List.dropLast_cons_of_ne_nil hafter, List.map_cons]

theorem dropReturn_of_notMem {line : List UInt8} (h : carriageReturn ∉ line) :
    dropReturn line = line := by
  unfold dropReturn
  split
  · rename_i b rest reversed
    have member : b ∈ line := List.mem_reverse.mp (reversed ▸ List.mem_cons_self)
    have other : b ≠ carriageReturn := by
      rintro rfl
      exact h member
    exact if_neg other
  · rename_i reversed
    exact (List.reverse_eq_nil_iff.mp reversed).symm

/-- A text without line ends, in UTF-8 and with a line feed behind it, is one line. -/
theorem linesOf_utf8 {text : String} (noFeed : '\n' ∉ text.toList) (noReturn : '\r' ∉ text.toList)
    (after : List UInt8) :
    linesOf (Text.utf8 text ++ lineFeed :: after) = text :: linesOf after := by
  have open? : lineFeed ∉ Text.utf8 text := fun member =>
    noFeed (Text.mem_of_mem_utf8 member (by decide))
  have kept : carriageReturn ∉ Text.utf8 text := fun member =>
    noReturn (Text.mem_of_mem_utf8 member (by decide))
  rw [linesOf_append_lineFeed open?, dropReturn_of_notMem kept, Text.decodeLossy_utf8]

/-- What stands behind the last line feed, read as a line. -/
def openLine (bytes : List UInt8) : String := Text.decodeLossy (dropReturn (unfinished bytes))

theorem splitOn_lineFeed (bytes : List UInt8) :
    bytes.splitOn lineFeed = (bytes.splitOn lineFeed).dropLast ++ [unfinished bytes] := by
  have pieces := List.splitOn_ne_nil lineFeed bytes
  rw [unfinished, List.getLast?_eq_some_getLast pieces, Option.getD_some,
    List.dropLast_append_getLast pieces]

theorem linesOf_concat (bytes : List UInt8) :
    linesOf (bytes ++ [lineFeed]) = linesOf bytes ++ [openLine bytes] := by
  unfold linesOf openLine
  rw [List.splitOn_append_cons_self, List.splitOn_nil, List.dropLast_concat]
  conv_lhs => rw [splitOn_lineFeed]
  rw [List.map_append, List.map_singleton]

/-- A text without line ends is one unfinished line. -/
theorem openLine_utf8 {text : String} (noFeed : '\n' ∉ text.toList)
    (noReturn : '\r' ∉ text.toList) :
    linesOf (Text.utf8 text) = [] ∧ openLine (Text.utf8 text) = text := by
  have lines := linesOf_utf8 noFeed noReturn []
  have none : linesOf [] = [] := rfl
  rw [linesOf_concat, none] at lines
  obtain ⟨noLine, same⟩ := List.append_inj' (lines.trans (List.nil_append [text]).symm) rfl
  exact ⟨noLine, List.singleton_inj.mp same⟩

namespace LineBuffer

theorem pushFrom_append (first second : List UInt8) (buffer : LineBuffer) (lines : List String) :
    pushFrom (first ++ second) buffer lines =
      pushFrom second (pushFrom first buffer lines).2 (pushFrom first buffer lines).1.reverse := by
  induction first generalizing buffer lines with
  | nil => simp [pushFrom]
  | cons b rest ih =>
      simp only [List.cons_append, pushFrom]
      split <;> exact ih _ _

/-- The lines of a push are those of the pending bytes with the new ones behind them. -/
theorem pushFrom_eq (bytes pending : List UInt8) (open? : lineFeed ∉ pending)
    (lines : List String) :
    pushFrom bytes { pending } lines =
      (lines.reverse ++ linesOf (pending.reverse ++ bytes),
        { pending := (unfinished (pending.reverse ++ bytes)).reverse }) := by
  have hpending : lineFeed ∉ pending.reverse := fun member => open? (List.mem_reverse.mp member)
  induction bytes generalizing pending lines with
  | nil =>
      rw [List.append_nil, linesOf_of_notMem hpending, unfinished_of_notMem hpending]
      simp [pushFrom]
  | cons b rest ih =>
      unfold pushFrom
      split
      · rename_i ends
        subst ends
        rw [ih [] (by simp) _ (by simp), linesOf_append_lineFeed hpending,
          unfinished_append_lineFeed]
        simp
      · rename_i goesOn
        have hopen : lineFeed ∉ b :: pending := by
          simp [open?, Ne.symm goesOn]
        rw [ih (b :: pending) hopen lines (by simpa [and_comm] using hopen)]
        simp

/-- The lines before a push stay in front of those that it completes. -/
theorem pushFrom_lines (bytes : List UInt8) (buffer : LineBuffer) (lines : List String) :
    pushFrom bytes buffer lines =
      (lines.reverse ++ (pushFrom bytes buffer []).1, (pushFrom bytes buffer []).2) := by
  induction bytes generalizing buffer lines with
  | nil => simp [pushFrom]
  | cons b rest ih =>
      unfold pushFrom
      split
      · rw [ih {} (_ :: lines), ih {} [_]]
        simp
      · exact ih _ _

/-- Bytes that come in two pieces complete the lines that they complete in one. -/
theorem push_append (buffer : LineBuffer) (first second : List UInt8) :
    buffer.push (first ++ second) =
      ((buffer.push first).1 ++ ((buffer.push first).2.push second).1,
        ((buffer.push first).2.push second).2) := by
  unfold push
  rw [pushFrom_append, pushFrom_lines, List.reverse_reverse]

theorem push_fresh (bytes : List UInt8) :
    push {} bytes = (linesOf bytes, { pending := (unfinished bytes).reverse }) := by
  have hpush := pushFrom_eq bytes [] (by simp) []
  simpa [push] using hpush

end LineBuffer

end AnswerGateway.Completion
