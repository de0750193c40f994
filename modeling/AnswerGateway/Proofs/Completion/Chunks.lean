import AnswerGateway.Completion.Reading

/-!
What the chunks of a provider's answer look like. However the provider's bytes are made and cut, an
answer is some pieces of text, none of them empty, and then one chunk that ends it, either because
the answer is whole or because it broke off.
-/

namespace AnswerGateway.Completion

/-- Chunks that can be added to an answer, and whether they end it. -/
inductive Adds : List Chunk → Bool → Prop where
  | nothing : Adds [] false
  | finished (tokenUsage : UInt32) : Adds [.finished tokenUsage] true
  | failed (message : String) : Adds [.failed message] true
  | content {text : String} {rest : List Chunk} {ends : Bool} (nonempty : text ≠ "")
      (more : Adds rest ends) : Adds (.ofContent text :: rest) ends

theorem Adds.append {first second : List Chunk} {ends : Bool} (h : Adds first false)
    (more : Adds second ends) : Adds (first ++ second) ends := by
  generalize hopen : false = open? at h
  induction h with
  | nothing => exact more
  | finished | failed => cases hopen
  | content nonempty _ ih => exact .content nonempty (ih hopen)

/-- Chunks that end an answer are pieces of its text and one last chunk. -/
theorem Adds.pieces {chunks : List Chunk} (h : Adds chunks true) :
    ∃ (texts : List String) (last : Chunk), chunks = texts.map Chunk.ofContent ++ [last] ∧
      (∀ text ∈ texts, text ≠ "") ∧
      ((∃ tokenUsage, last = .finished tokenUsage) ∨ ∃ message, last = .failed message) := by
  generalize hends : true = ends at h
  induction h with
  | nothing => cases hends
  | finished tokenUsage => exact ⟨[], _, rfl, by simp, .inl ⟨tokenUsage, rfl⟩⟩
  | failed message => exact ⟨[], _, rfl, by simp, .inr ⟨message, rfl⟩⟩
  | @content text rest ends nonempty _ ih =>
      obtain ⟨texts, last, rfl, hall, hlast⟩ := ih hends
      refine ⟨text :: texts, last, rfl, ?_, hlast⟩
      intro other member
      rcases List.mem_cons.mp member with rfl | later
      · exact nonempty
      · exact hall other later

/-- A line never carries an empty piece of text. -/
theorem Line.of_ne_empty {line text : String} {finished : Bool} {total : Option UInt32}
    (h : Line.of line = .data (some text) finished total) : text ≠ "" := by
  simp only [Line.of] at h
  split at h
  · cases h
  · split at h
    · cases h
    · split at h
      · rename_i chunk _
        unfold StreamChunk.line at h
        split at h
        · cases h
        · injection h with hcontent
          rw [Option.filter_eq_some_iff] at hcontent
          simpa using hcontent.2
      · cases h

namespace Reading

variable (r : Reading)

theorem line_adds (progress : r.complete = false) (l : String) :
    Adds (r.line (.of l)).1 (r.line (.of l)).2.complete := by
  cases hline : Line.of l with
  | skip => simpa [line, progress] using Adds.nothing
  | done => exact .finished r.total
  | error message => exact .failed message
  | data content finished total =>
      cases content with
      | none => simpa [line, progress] using Adds.nothing
      | some text =>
          simpa [line, progress] using Adds.content (Line.of_ne_empty hline) .nothing

theorem lines_adds (progress : r.complete = false) (ls : List String) :
    Adds (r.lines ls).1 (r.lines ls).2.complete := by
  induction ls generalizing r with
  | nil => simpa [lines, progress] using Adds.nothing
  | cons l rest ih =>
      have hline := r.line_adds progress l
      simp only [lines, progress, Bool.false_eq_true, if_false]
      cases hcomplete : (r.line (.of l)).2.complete with
      | false =>
          rw [hcomplete] at hline
          exact hline.append (ih _ hcomplete)
      | true =>
          rw [hcomplete] at hline
          cases rest <;> simpa [lines, hcomplete] using hline

/-- What the end of the body leaves unfinished adds text at most. -/
theorem remainder_adds (progress : r.complete = false) :
    Adds r.remainder.1 false ∧ r.remainder.2.complete = false := by
  unfold remainder
  split
  · rename_i content finished total hline
    obtain ⟨text, -, htext⟩ := Option.map_eq_some_iff.mp hline
    have hadds := r.line_adds progress text
    rw [htext] at hadds
    have hopen : (r.line (.data content finished total)).2.complete = false := by
      simpa [line] using progress
    exact ⟨hopen ▸ hadds, hopen⟩
  · exact ⟨.nothing, progress⟩

theorem read_adds (progress : r.complete = false) (x : Read) :
    Adds (r.read x).1 (r.read x).2.complete := by
  cases x with
  | bytes bytes =>
      simp only [read, progress, Bool.false_eq_true, if_false]
      exact lines_adds _ rfl _
  | failed message => simpa [read, progress] using Adds.failed _
  | ended =>
      simp only [read, progress, Bool.false_eq_true, if_false]
      exact (r.remainder_adds progress).1.append (.finished _)

theorem read_complete (complete : r.complete = true) (x : Read) : r.read x = ([], r) := by
  cases x <;> simp [read, complete]

/-- After the chunk that ends the answer there are no more. -/
theorem reads_complete (complete : r.complete = true) (xs : List Read) :
    r.reads xs = ([], r) := by
  induction xs with
  | nil => rfl
  | cons x rest ih => simp [reads, r.read_complete complete, ih]

theorem read_ended (r : Reading) : (r.read .ended).2.complete = true := by
  cases hcomplete : r.complete <;> simp [read, hcomplete]

/-- A body that has been read to its end makes a whole answer. -/
theorem reads_adds (progress : r.complete = false) (xs : List Read) :
    Adds (r.reads (xs ++ [.ended])).1 true := by
  induction xs generalizing r with
  | nil =>
      have hread := r.read_adds progress .ended
      rw [read_ended] at hread
      simpa [reads] using hread
  | cons x rest ih =>
      have hread := r.read_adds progress x
      simp only [List.cons_append, reads]
      cases hcomplete : (r.read x).2.complete with
      | false =>
          rw [hcomplete] at hread
          exact hread.append (ih _ hcomplete)
      | true =>
          rw [hcomplete] at hread
          simpa [reads_complete _ hcomplete] using hread

end Reading

/-- The chunks of a body, whatever it delivers before it ends, are pieces of text and one last
chunk. -/
theorem chunksOf_pieces (reads : List Read) :
    ∃ (texts : List String) (last : Chunk),
      chunksOf (reads ++ [.ended]) = texts.map Chunk.ofContent ++ [last] ∧
        (∀ text ∈ texts, text ≠ "") ∧
      ((∃ tokenUsage, last = .finished tokenUsage) ∨ ∃ message, last = .failed message) :=
  (Reading.reads_adds {} rfl reads).pieces

end AnswerGateway.Completion
