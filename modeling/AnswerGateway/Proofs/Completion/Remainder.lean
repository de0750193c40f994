import AnswerGateway.Proofs.Completion.Intake

/-!
The line that the end of a body leaves unfinished. It is read by a rule of its own: without the
blanks around it, and only as a piece of the answer. The same bytes with a line feed behind them are
read as any other line. Both say the same but for two kinds of line: an error at the end of a body
is lost, and a line that starts with a blank is read although it has no mark at its start.
-/

namespace AnswerGateway.Completion

theorem trim_dropReturn (bytes : List UInt8) :
    Text.trim (Text.decodeLossy (dropReturn bytes)) = Text.trim (Text.decodeLossy bytes) := by
  unfold dropReturn
  split
  · rename_i b rest reversed
    split
    · rename_i returns
      have whole : bytes = rest.reverse ++ [carriageReturn] := by
        rw [← List.reverse_inj, reversed, returns]
        simp
      rw [Text.trim, Text.trim, whole, Text.decodeLossy_concat _ (by decide),
        Text.stripWhere_concat (by decide)]
    · rfl
  · rename_i reversed
    rw [List.reverse_eq_nil_iff.mp reversed]

/-- Whether a line starts with a blank. -/
def startsBlank (line : String) : Bool := line.toList.head?.any Text.isBlank

theorem payloadOf?_startsBlank {line : String} (blank : startsBlank line = true) :
    payloadOf? line = none := by
  unfold payloadOf? behind?
  split
  · rename_i marked
    obtain ⟨rest, whole⟩ := List.isPrefixOf_iff_prefix.mp marked
    rw [startsBlank, ← whole] at blank
    exact absurd blank Bool.false_ne_true
  · rfl

/-- A line that does not start with a blank loses those at its end only. -/
theorem toList_eq_trim {line : String} (solid : startsBlank line = false) :
    ∃ blanks, line.toList = (Text.trim line).toList ++ blanks ∧
      ∀ c ∈ blanks, Text.isBlank c = true := by
  refine ⟨(line.toList.reverse.takeWhile Text.isBlank).reverse, ?_, ?_⟩
  · have stays : line.toList.dropWhile Text.isBlank = line.toList := by
      unfold startsBlank at solid
      cases h : line.toList with
      | nil => rfl
      | cons c rest =>
          rw [h] at solid
          exact List.dropWhile_cons_of_neg (by simpa using solid)
    rw [Text.trim, String.toList_ofList, Text.stripWhere, stays, ← List.reverse_append,
      List.takeWhile_append_dropWhile, List.reverse_reverse]
  · intro c member
    exact List.all_eq_true.mp List.all_takeWhile c (List.mem_reverse.mp member)

/-- Blanks behind a line do not belong to what it carries. -/
theorem payloadOf?_trim {line : String} (solid : startsBlank line = false) :
    payloadOf? (Text.trim line) = payloadOf? line := by
  obtain ⟨blanks, whole, blank⟩ := toList_eq_trim solid
  unfold payloadOf? behind?
  rw [whole]
  by_cases marked : dataMark.isPrefixOf (Text.trim line).toList = true
  · obtain ⟨rest, hrest⟩ := List.isPrefixOf_iff_prefix.mp marked
    have marked' : dataMark.isPrefixOf ((Text.trim line).toList ++ blanks) = true := by
      rw [← hrest, List.append_assoc]
      exact List.isPrefixOf_iff_prefix.mpr (List.prefix_append _ _)
    rw [if_pos marked, if_pos marked', ← hrest, List.append_assoc, List.drop_left,
      List.drop_left, Option.map_some, Option.map_some, Text.stripWhere_append blank]
  · have unmarked : ¬dataMark.isPrefixOf ((Text.trim line).toList ++ blanks) = true := by
      intro marked'
      obtain ⟨rest, hrest⟩ := List.isPrefixOf_iff_prefix.mp marked'
      rcases List.append_eq_append_iff.mp hrest with ⟨more, same, -⟩ | ⟨more, same, rfl⟩
      · exact marked (List.isPrefixOf_iff_prefix.mpr ⟨more, same.symm⟩)
      · -- The mark ends in a colon, which is no blank.
        have last : dataMark.getLast? = some ':' := rfl
        rw [same, List.getLast?_append] at last
        cases more with
        | nil => exact marked (List.isPrefixOf_iff_prefix.mpr ⟨[], by simpa using same⟩)
        | cons c cs =>
            rw [List.getLast?_eq_some_getLast (List.cons_ne_nil c cs), Option.some_or] at last
            have colon : ':' ∈ c :: cs := Option.some.inj last ▸ List.getLast_mem _
            exact absurd (blank ':' (List.mem_append_left _ colon)) (by decide)
    rw [if_neg marked, if_neg unmarked]

/-- What the end of a body makes of an unfinished line: the line without the blanks around it,
unless it would end the answer. -/
def remainderOf (line : String) : List String := [Text.trim line].filter (!endsAnswer ·)

theorem remainderOf_ends {line : String} (ends : endsAnswer (Text.trim line) = true) :
    remainderOf line = [] := by
  simp [remainderOf, ends]

theorem remainderOf_goesOn {line : String} (goesOn : endsAnswer (Text.trim line) = false) :
    remainderOf line = [Text.trim line] := by
  simp [remainderOf, goesOn]

namespace Reading

variable (r : Reading)

theorem remainder_eq (progress : r.complete = false) :
    r.remainder = r.lines (remainderOf (Text.decodeLossy r.buffer.pending.reverse)) := by
  unfold remainder LineBuffer.finish
  generalize Text.decodeLossy r.buffer.pending.reverse = rest
  cases ends : endsAnswer (Text.trim rest) with
  | true =>
      have present : ¬(Text.trim rest).isEmpty = true := by
        intro empty
        rw [String.isEmpty_iff.mp empty] at ends
        cases ends
      simp only [remainderOf_ends ends, if_neg present, Option.map_some]
      rcases Line.of_ends ends with hdone | ⟨message, herror⟩
      · simp [hdone, lines]
      · simp [herror, lines]
  | false =>
      rw [remainderOf_goesOn ends, lines_singleton r progress]
      by_cases empty : (Text.trim rest).isEmpty = true
      · rw [String.isEmpty_iff.mp empty]
        rfl
      · simp only [if_neg empty, Option.map_some]
        rcases Line.of_goesOn ends with ⟨hskip, -, -⟩ | ⟨finished, hdata⟩
        · simp [hskip, line]
        · simp [hdata]

/-- What the end of a body adds that ends without an error. -/
theorem read_ended_answer :
    (r.read .ended).1 =
      if r.complete then []
      else
        answerFrom r.total (remainderOf (Text.decodeLossy r.buffer.pending.reverse)) .ended := by
  by_cases complete : r.complete = true
  · rw [read_complete r complete, if_pos complete]
  · have progress : r.complete = false := by simpa using complete
    have goesOn := (r.remainder_adds progress).2
    rw [remainder_eq r progress] at goesOn
    rw [if_neg complete, ← lines_answer r progress, goesOn]
    simp [read, progress, remainder_eq, lastChunk]

end Reading

/-- The number of tokens that has been counted behind lines of which none ends the answer. -/
def countedIn (lines : List String) : UInt32 := (lines.filterMap totalOf?).getLast?.getD 0

/-- Whether an unfinished line says what it would say with a line feed behind it, when so many
tokens have been counted before it. It reports no error; and if it starts with a blank, it says
nothing without the blank either. -/
def SaysSame (line : String) (counted : UInt32) : Prop :=
  errorOf? line = none ∧ (startsBlank line = true →
    endsAnswer (Text.trim line) = true ∨
      textOf? (Text.trim line) = none ∧ (totalOf? (Text.trim line)).getD counted = counted)

theorem answerFrom_remainder_iff (line : String) (counted : UInt32) :
    answerFrom counted (remainderOf line) .ended = answerFrom counted [line] .ended ↔
      SaysSame line counted := by
  cases blank : startsBlank line with
  | false =>
      obtain ⟨sameEnds, -, sameText, sameTotal⟩ := congr_payload (payloadOf?_trim blank)
      have same : SaysSame line counted ↔ errorOf? line = none := by simp [SaysSame, blank]
      rw [same]
      cases ends : endsAnswer line with
      | true =>
          rw [remainderOf_ends (sameEnds.trans ends), answerFrom_ends ends]
          cases error : errorOf? line <;> simp [answerFrom, lastChunk, Chunk.finished, Chunk.failed]
      | false =>
          have fine : errorOf? line = none := by
            simpa using (Bool.or_eq_false_iff.mp ends).2
          rw [remainderOf_goesOn (sameEnds.trans ends), answerFrom_last (sameEnds.trans ends),
            answerFrom_last ends, sameText, sameTotal]
          simp [fine]
  | true =>
      obtain ⟨goesOn, fine, noText, noTotal⟩ := nothing_of_payload (payloadOf?_startsBlank blank)
      rw [answerFrom_last goesOn, noText, noTotal]
      cases ends : endsAnswer (Text.trim line) with
      | true => simp [SaysSame, fine, ends, remainderOf_ends, answerFrom, lastChunk]
      | false =>
          rw [remainderOf_goesOn ends, answerFrom_last ends]
          cases text : textOf? (Text.trim line) <;>
            simp [SaysSame, fine, blank, ends, text, Chunk.finished]

/-- A body that ends without an error adds to its lines what its end makes of the unfinished one. -/
theorem chunksOf_remainder {reads : List Read} (ending : endOf reads = .ended) :
    chunksOf (reads ++ [.ended]) =
      answerOf (linesOf (bytesOf reads) ++ remainderOf (openLine (bytesOf reads))) .ended := by
  have hanswer := Reading.lines_answer_append {} rfl (linesOf (bytesOf reads))
    (remainderOf (openLine (bytesOf reads))) .ended
  have trimmed : remainderOf (openLine (bytesOf reads)) =
      remainderOf (Text.decodeLossy (unfinished (bytesOf reads))) := by
    rw [remainderOf, openLine, trim_dropReturn, remainderOf]
  unfold chunksOf
  rw [Reading.reads_body, ending, Reading.reads_cons, Reading.read_bytes _ rfl,
    LineBuffer.push_fresh, answerOf, ← hanswer]
  refine congrArg (_ ++ ·) ?_
  rw [Reading.reads_cons, Reading.read_ended_answer, trimmed]
  simp [Reading.withBuffer, Reading.reads]

theorem answerOf_append_iff (lines : List String) (line : String) :
    answerOf (lines ++ remainderOf line) .ended = answerOf (lines ++ [line]) .ended ↔
      (∃ last ∈ lines, endsAnswer last = true) ∨ SaysSame line (countedIn lines) := by
  by_cases ended : ∃ last ∈ lines, endsAnswer last = true
  · obtain ⟨last, member, ends⟩ := ended
    rw [answerOf, answerOf, answerFrom_append_ends member ends, answerFrom_append_ends member ends]
    exact iff_of_true rfl (.inl ⟨last, member, ends⟩)
  · have goesOn (line : String) (member : line ∈ lines) : endsAnswer line = false :=
      Bool.eq_false_iff.mpr fun ends => ended ⟨line, member, ends⟩
    rw [answerOf, answerOf, answerFrom_append_goesOn goesOn, answerFrom_append_goesOn goesOn,
      List.append_cancel_left_eq, or_iff_right ended]
    exact answerFrom_remainder_iff line (countedIn lines)

namespace Live

/-- What is delivered of a body that may end inside a line. -/
theorem delivers_bare {cut : List Read} (ending : endOf cut = .ended) (capacity : Nat) :
    (start { reads := cut } capacity).Delivers
      (answerOf (linesOf (bytesOf cut) ++ remainderOf (openLine (bytesOf cut))) .ended) := by
  rw [← chunksOf_remainder ending]
  exact delivers_of_carries (Intake.carries_start cut capacity) rfl

/-- What is delivered of a body with a line feed behind it. -/
theorem delivers_fed {cut : List Read} {bytes : List UInt8}
    (same : bytesOf cut = bytes ++ [lineFeed]) (ending : endOf cut = .ended) (capacity : Nat) :
    (start { reads := cut } capacity).Delivers
      (answerOf (linesOf bytes ++ [openLine bytes]) .ended) := by
  have settled : unfinished (bytesOf cut) = [] := by
    rw [same, unfinished_append_lineFeed]
    rfl
  rw [← linesOf_concat, ← same, ← ending, ← chunksOf_eq_answer (.inl settled)]
  exact delivers_of_carries (Intake.carries_start cut capacity) rfl

/-- Without an error, a body that ends inside a line makes the answer that it makes with a line feed
behind it exactly if the answer has ended before that line or the line says the same. -/
theorem start_line_feed_iff (bytes : List UInt8) :
    ∃ bare fed : List Chunk,
      (∀ cut capacity, bytesOf cut = bytes → endOf cut = .ended →
        (start { reads := cut } capacity).Delivers bare) ∧
      (∀ cut capacity, bytesOf cut = bytes ++ [lineFeed] → endOf cut = .ended →
        (start { reads := cut } capacity).Delivers fed) ∧
      bare = answerOf (linesOf bytes ++ remainderOf (openLine bytes)) .ended ∧
      fed = answerOf (linesOf bytes ++ [openLine bytes]) .ended ∧
      (bare = fed ↔ (∃ line ∈ linesOf bytes, endsAnswer line = true) ∨
        SaysSame (openLine bytes) (countedIn (linesOf bytes))) := by
  refine ⟨_, _, ?_, ?_, rfl, rfl, answerOf_append_iff _ _⟩
  · rintro cut capacity rfl ending
    exact delivers_bare ending capacity
  · intro cut capacity same ending
    exact delivers_fed same ending capacity

/-- An error that is all that a body says is lost, and the answer counts as whole, if no line feed
stands behind it. -/
theorem delivers_error {text message : String} (noFeed : '\n' ∉ text.toList)
    (noReturn : '\r' ∉ text.toList) (solid : startsBlank text = false)
    (error : errorOf? text = some message) :
    (start { reads := [.bytes (Text.utf8 text)] } 1).Delivers [.finished 0] ∧
      (start { reads := [.bytes (Text.utf8 text ++ [lineFeed])] } 1).Delivers
        [.failed message] := by
  obtain ⟨noLine, whole⟩ := openLine_utf8 noFeed noReturn
  have ends : endsAnswer text = true := by simp [endsAnswer, error]
  have endsTrimmed := (congr_payload (payloadOf?_trim solid)).1.trans ends
  have bytes (body : List UInt8) : bytesOf [.bytes body] = body := List.append_nil body
  constructor
  · have ending : endOf [.bytes (Text.utf8 text)] = .ended := rfl
    have bare := delivers_bare ending 1
    rw [bytes, noLine, whole, remainderOf_ends endsTrimmed] at bare
    exact bare
  · have fed := delivers_fed (bytes (Text.utf8 text ++ [lineFeed])) rfl 1
    rw [noLine, whole, List.nil_append, answerOf, answerFrom_ends ends, error] at fed
    exact fed

/-- A body that says nothing but that the provider is overloaded. -/
theorem start_overloaded :
    let body := Text.utf8 "data: \x7b\"error\":\x7b\"message\":\"overloaded\"\x7d\x7d"
    (start { reads := [.bytes body] } 1).Delivers [.finished 0] ∧
      (start { reads := [.bytes (body ++ [lineFeed])] } 1).Delivers [.failed "overloaded"] ∧
      ¬∃ chunks, (start { reads := [.bytes body] } 1).Delivers chunks ∧
        (start { reads := [.bytes (body ++ [lineFeed])] } 1).Delivers chunks := by
  have error : errorOf? "data: \x7b\"error\":\x7b\"message\":\"overloaded\"\x7d\x7d" =
      some "overloaded" := rfl
  obtain ⟨bare, fed⟩ := delivers_error (by decide) (by decide) (by decide) error
  refine ⟨bare, fed, ?_⟩
  rintro ⟨chunks, one, other⟩
  cases (one.unique bare).symm.trans (other.unique fed)

end Live

end AnswerGateway.Completion
