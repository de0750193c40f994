import AnswerGateway.Proofs.Completion.Chunks
import AnswerGateway.Proofs.Completion.Lines

/-!
The answer that a body makes, said of the whole body at once. The lines before the one that ends the
answer give its text and its number of tokens; how it ends is said by that line or, if there is
none, by the way in which the body ends. A reading of the body, which knows only what has come so
far, comes to the same, however the body is cut into reads.
-/

namespace AnswerGateway.Completion

open Json

/-- What a line carries behind its mark, without blanks around it. -/
def payloadOf? (line : String) : Option String :=
  (behind? dataMark line.toList).map fun rest => String.ofList (Text.stripWhere Text.isBlank rest)

def saysDone (line : String) : Bool := payloadOf? line = some doneMark

/-- The event that a line carries, if it carries one and that can be read. -/
def eventOf? (line : String) : Option StreamChunk := do
  let payload ← payloadOf? line
  if payload = doneMark then none else (decodeText StreamChunk.format payload).toOption

def errorOf? (line : String) : Option String := (eventOf? line).bind StreamChunk.error

/-- The piece of text that a line adds to the answer: that of the first choice, if it has any. -/
def textOf? (line : String) : Option String :=
  (eventOf? line).bind fun event =>
    (event.choices.head?.bind StreamChoice.content).filter (· ≠ "")

/-- The number of tokens that a line counts. -/
def totalOf? (line : String) : Option UInt32 :=
  (eventOf? line).bind fun event => event.totalTokens.filter (0 < ·)

/-- Whether there is nothing of the answer behind a line. -/
def endsAnswer (line : String) : Bool := saysDone line || (errorOf? line).isSome

/-- The chunk that ends an answer whose body ends so. -/
def lastChunk (total : UInt32) : Read → Chunk
  | .failed message => .failed ("failed to read from upstream: " ++ message)
  | _ => .finished total

/-- The answer that lines make when so many tokens were counted before them; `ending` is how the
body ends behind them. -/
def answerFrom (counted : UInt32) (lines : List String) (ending : Read) : List Chunk :=
  let before := lines.takeWhile (!endsAnswer ·)
  let total := (before.filterMap totalOf?).getLast?.getD counted
  (before.filterMap textOf?).map .ofContent ++
    [match lines.find? endsAnswer with
      | some line => (errorOf? line).elim (.finished total) .failed
      | none => lastChunk total ending]

def answerOf (lines : List String) (ending : Read) : List Chunk := answerFrom 0 lines ending

/-- What a line says of the answer is said by what it carries. -/
theorem congr_payload {line other : String} (same : payloadOf? line = payloadOf? other) :
    endsAnswer line = endsAnswer other ∧ errorOf? line = errorOf? other ∧
      textOf? line = textOf? other ∧ totalOf? line = totalOf? other := by
  simp [endsAnswer, saysDone, errorOf?, textOf?, totalOf?, eventOf?, same]

/-- A line that carries nothing says nothing. -/
theorem nothing_of_payload {line : String} (nothing : payloadOf? line = none) :
    endsAnswer line = false ∧ errorOf? line = none ∧ textOf? line = none ∧
      totalOf? line = none := by
  simp [endsAnswer, saysDone, errorOf?, textOf?, totalOf?, eventOf?, nothing]

namespace Line

/-- What a line means is told by what it carries. -/
theorem of_eq (line : String) :
    Line.of line =
      if saysDone line then .done else (eventOf? line).elim .skip StreamChunk.line := by
  cases hmark : behind? dataMark line.toList with
  | none => simp [Line.of, saysDone, eventOf?, payloadOf?, hmark]
  | some rest =>
      by_cases hdone : String.ofList (Text.stripWhere Text.isBlank rest) = doneMark
      · simp [Line.of, saysDone, payloadOf?, hmark, hdone]
      · cases hevent : decodeText StreamChunk.format
            (String.ofList (Text.stripWhere Text.isBlank rest)) with
        | error f =>
            simp [Line.of, saysDone, eventOf?, payloadOf?, hmark, hdone, hevent, Except.toOption]
        | ok event =>
            simp [Line.of, saysDone, eventOf?, payloadOf?, hmark, hdone, hevent, Except.toOption]

theorem eventOf?_of_saysDone {line : String} (done : saysDone line = true) :
    eventOf? line = none := by
  have hpayload : payloadOf? line = some doneMark := by simpa [saysDone] using done
  simp [eventOf?, hpayload]

theorem of_saysDone {line : String} (done : saysDone line = true) : Line.of line = .done := by
  rw [of_eq, if_pos done]

theorem of_error {line message : String} (error : errorOf? line = some message) :
    Line.of line = .error message := by
  obtain ⟨event, hevent, herror⟩ := Option.bind_eq_some_iff.mp error
  have notDone : saysDone line ≠ true := by
    intro done
    rw [eventOf?_of_saysDone done] at hevent
    cases hevent
  rw [of_eq, if_neg notDone, hevent, Option.elim_some, StreamChunk.line, herror]

theorem of_ends {line : String} (ends : endsAnswer line = true) :
    Line.of line = .done ∨ ∃ message, Line.of line = .error message := by
  cases error : errorOf? line with
  | some message => exact .inr ⟨message, of_error error⟩
  | none =>
      have done : saysDone line = true := by simpa [endsAnswer, error] using ends
      exact .inl (of_saysDone done)

/-- A line that does not end the answer adds to its text, or counts its tokens, or does neither. -/
theorem of_goesOn {line : String} (goesOn : endsAnswer line = false) :
    (Line.of line = .skip ∧ textOf? line = none ∧ totalOf? line = none) ∨
      ∃ finished, Line.of line = .data (textOf? line) finished (totalOf? line) := by
  obtain ⟨notDone, fine⟩ := Bool.or_eq_false_iff.mp goesOn
  cases hevent : eventOf? line with
  | none =>
      refine .inl ⟨?_, ?_, ?_⟩
      · rw [of_eq, notDone, hevent]
        rfl
      · rw [textOf?, hevent]
        rfl
      · rw [totalOf?, hevent]
        rfl
  | some event =>
      have herror : event.error = none := by simpa [errorOf?, hevent] using fine
      have htext : textOf? line =
          (event.choices.head?.bind StreamChoice.content).filter (!·.isEmpty) := by
        rw [textOf?, hevent, Option.bind_some]
        congr 1
        funext text
        exact Bool.eq_iff_iff.mpr (by simp)
      have htotal : totalOf? line = event.totalTokens.filter (0 < ·) := by
        rw [totalOf?, hevent, Option.bind_some]
      refine .inr ⟨(event.choices.head?.bind StreamChoice.finishReason).any (!·.isEmpty), ?_⟩
      rw [of_eq, notDone, hevent, htext, htotal, Option.elim_some, StreamChunk.line, herror]
      rfl

end Line

namespace Reading

variable (r : Reading)

theorem lines_complete (complete : r.complete = true) (ls : List String) :
    r.lines ls = ([], r) := by
  cases ls <;> simp [lines, complete]

theorem lines_cons (progress : r.complete = false) (l : String) (rest : List String) :
    r.lines (l :: rest) =
      ((r.line (.of l)).1 ++ ((r.line (.of l)).2.lines rest).1,
        ((r.line (.of l)).2.lines rest).2) := by
  simp [lines, progress]

theorem lines_singleton (progress : r.complete = false) (l : String) :
    r.lines [l] = r.line (.of l) := by
  rw [lines_cons r progress]
  simp [lines]

/-- Lines that are taken one after the other add what they add together. -/
theorem lines_append (first second : List String) :
    r.lines (first ++ second) =
      ((r.lines first).1 ++ ((r.lines first).2.lines second).1,
        ((r.lines first).2.lines second).2) := by
  induction first generalizing r with
  | nil => rfl
  | cons l rest ih =>
      cases hcomplete : r.complete with
      | true => simp [lines_complete _ hcomplete]
      | false =>
          rw [List.cons_append, lines_cons _ hcomplete, lines_cons _ hcomplete, ih,
            List.append_assoc]

/-- A reading with other bytes left unfinished. -/
def withBuffer (buffer : LineBuffer) : Reading := { r with buffer }

@[simp]
theorem withBuffer_buffer (buffer : LineBuffer) : (r.withBuffer buffer).buffer = buffer := rfl

@[simp]
theorem withBuffer_complete (buffer : LineBuffer) :
    (r.withBuffer buffer).complete = r.complete := rfl

@[simp]
theorem withBuffer_withBuffer (first second : LineBuffer) :
    (r.withBuffer first).withBuffer second = r.withBuffer second := rfl

/-- What lines add does not depend on what is left unfinished behind them. -/
theorem lines_withBuffer (buffer : LineBuffer) (ls : List String) :
    (r.withBuffer buffer).lines ls = ((r.lines ls).1, (r.lines ls).2.withBuffer buffer) := by
  induction ls generalizing r with
  | nil => rfl
  | cons l rest ih =>
      by_cases complete : r.complete = true
      · rw [lines_complete r complete, lines_complete (r.withBuffer buffer) complete]
      · have progress : r.complete = false := by simpa using complete
        have hline : (r.withBuffer buffer).line (.of l) =
            ((r.line (.of l)).1, (r.line (.of l)).2.withBuffer buffer) := by
          cases Line.of l <;> rfl
        rw [lines_cons r progress, lines_cons (r.withBuffer buffer) progress, hline, ih]

end Reading

theorem answerFrom_ends {line : String} (ends : endsAnswer line = true) (counted : UInt32)
    (rest : List String) (ending : Read) :
    answerFrom counted (line :: rest) ending =
      [(errorOf? line).elim (.finished counted) .failed] := by
  simp [answerFrom, ends]

theorem answerFrom_goesOn {line : String} (goesOn : endsAnswer line = false) (counted : UInt32)
    (rest : List String) (ending : Read) :
    answerFrom counted (line :: rest) ending =
      (textOf? line).toList.map .ofContent ++
        answerFrom ((totalOf? line).getD counted) rest ending := by
  have hbefore : (line :: rest).takeWhile (!endsAnswer ·) =
      line :: rest.takeWhile (!endsAnswer ·) := by
    simp [goesOn]
  have hfind : (line :: rest).find? endsAnswer = rest.find? endsAnswer := by
    simp [goesOn]
  unfold answerFrom
  rw [hbefore, hfind]
  cases text : textOf? line <;> cases total : totalOf? line <;>
    simp [text, total, List.getLast?_cons]

theorem answerFrom_last {line : String} (goesOn : endsAnswer line = false) (counted : UInt32) :
    answerFrom counted [line] .ended =
      (textOf? line).toList.map .ofContent ++ [.finished ((totalOf? line).getD counted)] :=
  answerFrom_goesOn goesOn counted [] .ended

theorem answerFrom_append_goesOn {lines : List String}
    (goesOn : ∀ line ∈ lines, endsAnswer line = false) (counted : UInt32) (more : List String)
    (ending : Read) :
    answerFrom counted (lines ++ more) ending =
      (lines.filterMap textOf?).map .ofContent ++
        answerFrom ((lines.filterMap totalOf?).getLast?.getD counted) more ending := by
  induction lines generalizing counted with
  | nil => rfl
  | cons line rest ih =>
      have hline := goesOn line List.mem_cons_self
      have hrest := ih fun other member => goesOn other (List.mem_cons_of_mem line member)
      rw [List.cons_append, answerFrom_goesOn hline, hrest]
      cases text : textOf? line <;> cases total : totalOf? line <;>
        simp [text, total, List.getLast?_cons]

theorem answerFrom_append_ends {lines : List String} {last : String} (member : last ∈ lines)
    (ends : endsAnswer last = true) (counted : UInt32) (more : List String) (ending : Read) :
    answerFrom counted (lines ++ more) ending = answerFrom counted lines ending := by
  induction lines generalizing counted with
  | nil => cases member
  | cons line rest ih =>
      cases hline : endsAnswer line with
      | true => rw [List.cons_append, answerFrom_ends hline, answerFrom_ends hline]
      | false =>
          have later : last ∈ rest := by
            rcases List.mem_cons.mp member with rfl | later
            · rw [ends] at hline
              cases hline
            · exact later
          rw [List.cons_append, answerFrom_goesOn hline, answerFrom_goesOn hline, ih later]

namespace Reading

/-- A reading that has taken lines, and the end of the body if it is still open then, has given the
answer that the lines make. -/
theorem lines_answer (r : Reading) (progress : r.complete = false) (ls : List String)
    (ending : Read) :
    (r.lines ls).1 ++
        (if (r.lines ls).2.complete then [] else [lastChunk (r.lines ls).2.total ending]) =
      answerFrom r.total ls ending := by
  induction ls generalizing r with
  | nil => simp [lines, progress, answerFrom]
  | cons l rest ih =>
      rw [lines_cons _ progress]
      cases ends : endsAnswer l with
      | true =>
          rw [answerFrom_ends ends]
          cases herror : errorOf? l with
          | some message =>
              rw [Line.of_error herror]
              simp [line, lines_complete]
          | none =>
              have done : saysDone l = true := by simpa [endsAnswer, herror] using ends
              rw [Line.of_saysDone done]
              simp [line, lines_complete]
      | false =>
          rw [answerFrom_goesOn ends]
          rcases Line.of_goesOn ends with ⟨hline, htext, htotal⟩ | ⟨finished, hline⟩
          · rw [hline, htext, htotal]
            exact ih r progress
          · have hrest := ih (r.line (.of l)).2 (by rw [hline]; exact progress)
            rw [hline] at hrest ⊢
            rw [List.append_assoc, hrest]
            simp [line, Option.toList_map]

/-- Lines and what is behind them make the answer that they make together. -/
theorem lines_answer_append (r : Reading) (progress : r.complete = false) (ls more : List String)
    (ending : Read) :
    (r.lines ls).1 ++
        (if (r.lines ls).2.complete then [] else answerFrom (r.lines ls).2.total more ending) =
      answerFrom r.total (ls ++ more) ending := by
  rw [← lines_answer r progress, lines_append]
  by_cases complete : (r.lines ls).2.complete = true
  · simp [lines_complete, complete]
  · have goesOn : (r.lines ls).2.complete = false := by simpa using complete
    rw [if_neg complete, ← lines_answer _ goesOn, List.append_assoc]

theorem read_bytes (r : Reading) (progress : r.complete = false) (bytes : List UInt8) :
    r.read (.bytes bytes) =
      ((r.lines (r.buffer.push bytes).1).1,
        (r.lines (r.buffer.push bytes).1).2.withBuffer (r.buffer.push bytes).2) := by
  have hread : r.read (.bytes bytes) =
      (r.withBuffer (r.buffer.push bytes).2).lines (r.buffer.push bytes).1 := by
    simp [read, progress, withBuffer]
  rw [hread, lines_withBuffer]

theorem reads_cons (r : Reading) (x : Read) (rest : List Read) :
    (r.reads (x :: rest)).1 = (r.read x).1 ++ ((r.read x).2.reads rest).1 := rfl

/-- Two reads add what one read of all their bytes adds. -/
theorem reads_joined (r : Reading) (first second : List UInt8) (rest : List Read) :
    (r.reads (.bytes first :: .bytes second :: rest)).1 =
      (r.reads (.bytes (first ++ second) :: rest)).1 := by
  by_cases complete : r.complete = true
  · rw [reads_complete r complete, reads_complete r complete]
  · have progress : r.complete = false := by simpa using complete
    have hjoined := r.read_bytes progress (first ++ second)
    rw [LineBuffer.push_append, lines_append] at hjoined
    rw [reads_cons, reads_cons, reads_cons, hjoined, r.read_bytes progress]
    generalize r.lines (r.buffer.push first).1 = between
    obtain ⟨chunks, after⟩ := between
    by_cases ended : after.complete = true
    · -- The answer ends within the first read; what follows adds nothing.
      simp [read_complete, reads_complete, lines_complete, ended]
    · have goesOn : (after.withBuffer (r.buffer.push first).2).complete = false := by
        simpa using ended
      rw [read_bytes _ goesOn, lines_withBuffer]
      simp

theorem reads_no_bytes (r : Reading) (rest : List Read) :
    (r.reads (.bytes [] :: rest)).1 = (r.reads rest).1 := by
  by_cases complete : r.complete = true
  · rw [reads_complete r complete, reads_complete r complete]
  · have progress : r.complete = false := by simpa using complete
    rw [reads_cons, r.read_bytes progress]
    rfl

/-- What comes behind the end of a body is not read. -/
theorem reads_behind_end (r : Reading) {x : Read} (ends : (r.read x).2.complete = true)
    (rest : List Read) : (r.reads (x :: rest)).1 = (r.reads [x]).1 := by
  rw [reads_cons, reads_cons, reads_complete _ ends, reads_complete _ ends]

theorem read_failed (r : Reading) (message : String) :
    (r.read (.failed message)).2.complete = true := by
  cases hcomplete : r.complete <;> simp [read, hcomplete]

end Reading

/-- The bytes that a body delivers before it ends. -/
def bytesOf : List Read → List UInt8
  | [] => []
  | .bytes bytes :: rest => bytes ++ bytesOf rest
  | .failed _ :: _ => []
  | .ended :: _ => []

/-- How a body ends that delivers these reads and no more. -/
def endOf : List Read → Read
  | [] => .ended
  | .bytes _ :: rest => endOf rest
  | .failed message :: _ => .failed message
  | .ended :: _ => .ended

theorem endOf_cases (reads : List Read) :
    endOf reads = .ended ∨ ∃ message, endOf reads = .failed message := by
  induction reads with
  | nil => exact .inl rfl
  | cons x rest ih =>
      cases x with
      | bytes bytes => exact ih
      | failed message => exact .inr ⟨message, rfl⟩
      | ended => exact .inl rfl

/-- A body adds what one read of all its bytes and its end add. -/
theorem Reading.reads_body (r : Reading) (reads : List Read) :
    (r.reads (reads ++ [.ended])).1 = (r.reads [.bytes (bytesOf reads), endOf reads]).1 := by
  induction reads generalizing r with
  | nil => exact (r.reads_no_bytes _).symm
  | cons x rest ih =>
      cases x with
      | bytes bytes =>
          rw [bytesOf, endOf, ← reads_joined, List.cons_append, reads_cons, reads_cons, ih]
      | failed message =>
          rw [bytesOf, endOf, reads_no_bytes, List.cons_append,
            r.reads_behind_end (r.read_failed message)]
      | ended =>
          rw [bytesOf, endOf, reads_no_bytes, List.cons_append,
            r.reads_behind_end r.read_ended]

/-- What is left unfinished counts only at the end of a body that does not break off. -/
theorem Reading.reads_ending (r : Reading) {reads : List Read}
    (settled : r.buffer.pending = [] ∨ endOf reads ≠ .ended) :
    (r.reads [endOf reads]).1 = if r.complete then [] else [lastChunk r.total (endOf reads)] := by
  by_cases complete : r.complete = true
  · rw [reads_complete r complete, if_pos complete]
  · rw [if_neg complete, reads_cons]
    rcases endOf_cases reads with whole | ⟨message, broken⟩
    · have empty : r.buffer.pending = [] := settled.resolve_right (absurd whole ·)
      have finish : r.buffer.finish = none := by
        rw [LineBuffer.finish, empty]
        decide
      have remainder : r.remainder = ([], r) := by simp [Reading.remainder, finish]
      rw [whole]
      simp [read, complete, remainder, lastChunk, Reading.reads]
    · rw [broken]
      simp [read, complete, lastChunk, Reading.reads]

/-- What a body that breaks off leaves unfinished is lost, and a body that ends with a line leaves
nothing; then the chunks are the answer that the lines make. -/
theorem chunksOf_eq_answer {reads : List Read}
    (settled : unfinished (bytesOf reads) = [] ∨ endOf reads ≠ .ended) :
    chunksOf (reads ++ [.ended]) = answerOf (linesOf (bytesOf reads)) (endOf reads) := by
  have hanswer := Reading.lines_answer {} rfl (linesOf (bytesOf reads)) (endOf reads)
  unfold chunksOf
  rw [Reading.reads_body, Reading.reads_cons, Reading.read_bytes _ rfl, LineBuffer.push_fresh,
    Reading.reads_ending]
  · exact hanswer
  · exact settled.imp_left (List.reverse_eq_nil_iff.mpr ·)

end AnswerGateway.Completion
