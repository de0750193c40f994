import AnswerGateway.Proofs.Completion.Chunks
import AnswerGateway.Relay.Path

/-!
The frames that a provider's answer makes, as a function of its chunks and so of the reads of its
body alone. Nothing of how the parties of a path take turns is in it.
-/

namespace AnswerGateway.Relay

open Completion

def chunkFrames (c : Chunk) : List Frame :=
  (if c.content.isEmpty then [] else [.delta c.content]) ++
    (if c.done then [.finish, .done] else [])

/-- The frames that chunks make, as far as the chunk that ends the answer. -/
def framesOf : List Chunk → List Frame
  | [] => []
  | c :: rest =>
    if c.error.isSome then []
    else chunkFrames c ++ (if c.done then [] else framesOf rest)

/-- The frames that a client is promised when the body of the answer delivers these reads and then
ends. -/
def promised (reads : List Read) : List Frame := framesOf (chunksOf (reads ++ [.ended]))

theorem length_chunkFrames_le (c : Chunk) : (chunkFrames c).length ≤ 3 := by
  unfold chunkFrames
  split <;> split <;> simp

theorem framesOf_error {c : Chunk} {message : String} (h : c.error = some message)
    (rest : List Chunk) : framesOf (c :: rest) = [] := by
  simp [framesOf, h]

theorem framesOf_fine {c : Chunk} (h : c.error = none) (rest : List Chunk) :
    framesOf (c :: rest) = chunkFrames c ++ (if c.done then [] else framesOf rest) := by
  simp [framesOf, h]

theorem framesOf_texts {texts : List String} (nonempty : ∀ text ∈ texts, text ≠ "")
    (rest : List Chunk) :
    framesOf (texts.map Chunk.ofContent ++ rest) = texts.map Frame.delta ++ framesOf rest := by
  induction texts with
  | nil => rfl
  | cons text more ih =>
      have hmore := ih fun other member => nonempty other (List.mem_cons_of_mem _ member)
      have htext : text ≠ "" := nonempty text List.mem_cons_self
      simp [framesOf, chunkFrames, Chunk.ofContent, htext] at hmore ⊢
      exact hmore

/-- A client is promised one frame for each piece of text and, if the answer does not break off, two
that say that it is whole. -/
theorem promised_eq (reads : List Read) :
    ∃ (texts : List String) (last : Chunk),
      chunksOf (reads ++ [.ended]) = texts.map Chunk.ofContent ++ [last] ∧
      ((∃ tokenUsage, last = .finished tokenUsage) ∧
          promised reads = texts.map Frame.delta ++ [.finish, .done] ∨
        (∃ message, last = .failed message) ∧ promised reads = texts.map Frame.delta) := by
  obtain ⟨texts, last, hchunks, nonempty, hlast⟩ := chunksOf_pieces reads
  refine ⟨texts, last, hchunks, ?_⟩
  unfold promised
  rw [hchunks, framesOf_texts nonempty]
  rcases hlast with ⟨tokenUsage, rfl⟩ | ⟨message, rfl⟩
  · exact .inl ⟨⟨tokenUsage, rfl⟩, rfl⟩
  · exact .inr ⟨⟨message, rfl⟩, by simp [framesOf, Chunk.failed]⟩

end AnswerGateway.Relay
