import AnswerGateway.Proofs.Relay.Step

/-!
What the answer of a run is made of. While a run forwards a provider's answer, what it has handed
over and what it still holds are together the text of the chunks that it has taken; so an answer
that is called complete is the whole text up to the chunk that ended it.
-/

namespace AnswerGateway.Relay

def textOf (chunks : List Chunk) : String := String.join (chunks.map Chunk.content)

def frameText (frames : List Frame) : String := String.join (frames.map Frame.text)

@[simp]
theorem textOf_append (first second : List Chunk) :
    textOf (first ++ second) = textOf first ++ textOf second := by
  simp [textOf]

@[simp]
theorem frameText_nil : frameText [] = "" := rfl

@[simp]
theorem frameText_cons (f : Frame) (rest : List Frame) :
    frameText (f :: rest) = f.text ++ frameText rest := by
  simp [frameText]

theorem frameText_append (first second : List Frame) :
    frameText (first ++ second) = frameText first ++ frameText second := by
  simp [frameText]

theorem frameText_eq_empty {frames : List Frame} (h : ∀ f ∈ frames, f.text = "") :
    frameText frames = "" := by
  induction frames with
  | nil => rfl
  | cons f rest ih =>
      have hrest := ih fun g member => h g (List.mem_cons_of_mem f member)
      simp [h f List.mem_cons_self, hrest]

theorem frameText_chunkFrames (c : Chunk) : frameText (chunkFrames c) = c.content := by
  unfold chunkFrames
  cases hdone : c.done <;> by_cases hempty : c.content = "" <;>
    simp [hempty, Frame.text, frameText]

theorem tail_chunkFrames (c : Chunk) : ∀ f ∈ (chunkFrames c).tail, f.text = "" := by
  unfold chunkFrames
  cases hdone : c.done <;> by_cases hempty : c.content = "" <;> simp [hempty, Frame.text]

/-- The chunks of an answer that is whole: the last one ends it, none before it does, and none
reports an error. -/
def Whole (chunks : List Chunk) : Prop :=
  (∀ c ∈ chunks, c.error = none) ∧
    ∃ before last, chunks = before ++ [last] ∧ last.done = true ∧ ∀ c ∈ before, c.done = false

/-- What holds of a run, and of the chunks that it has taken, while it forwards an answer. -/
structure Run.Forwards (r : Run) (consumed : List Chunk) : Prop where
  fine : ∀ c ∈ consumed, c.error = none
  text : r.answer ++ frameText r.pending = textOf consumed
  first : ∀ f ∈ r.pending.tail, f.text = ""
  more : r.following = .more → ∀ c ∈ consumed, c.done = false
  complete : ∀ tokens, r.following = .complete tokens → Whole consumed

theorem Run.Forwards.handed {r : Run} {consumed : List Chunk} {f : Frame} {rest : List Frame}
    (h : r.Forwards consumed) (next : r.pending = f :: rest) :
    Run.Forwards { r with pending := rest, answer := r.answer ++ f.text } consumed := by
  have htext := h.text
  have hfirst := h.first
  rw [next, frameText_cons, ← String.append_assoc] at htext
  rw [next, List.tail_cons] at hfirst
  exact ⟨h.fine, htext, fun g member => hfirst g (List.mem_of_mem_tail member), h.more, h.complete⟩

theorem Run.Forwards.took {r : Run} {consumed : List Chunk} {c : Chunk} (h : r.Forwards consumed)
    (empty : r.pending = []) (more : r.following = .more) (fine : c.error = none) :
    (r.takeChunk c).Forwards (consumed ++ [c]) := by
  have htext := h.text
  rw [empty, frameText_nil, String.append_empty] at htext
  have hfine : ∀ d ∈ consumed ++ [c], d.error = none := by
    intro d member
    rcases List.mem_append.mp member with before | last
    · exact h.fine d before
    · rw [List.mem_singleton.mp last, fine]
  rw [Run.takeChunk_of_fine _ fine]
  refine ⟨hfine, ?_, tail_chunkFrames c, ?_, ?_⟩
  · simp [frameText_chunkFrames, htext, textOf]
  · intro following d member
    cases hdone : c.done with
    | true => simp [hdone] at following
    | false =>
        rcases List.mem_append.mp member with before | last
        · exact h.more more d before
        · rw [List.mem_singleton.mp last, hdone]
  · intro tokens following
    cases hdone : c.done with
    | false => simp [hdone] at following
    | true => exact ⟨hfine, consumed, c, rfl, hdone, h.more more⟩

/-- Frames that do not begin with text have none. -/
theorem Run.Forwards.answer_eq {r : Run} {consumed : List Chunk} (h : r.Forwards consumed)
    (empty : ∀ f ∈ r.pending.head?, f.text = "") : r.answer = textOf consumed := by
  have htext := h.text
  have hpending : frameText r.pending = "" := by
    cases next : r.pending with
    | nil => rfl
    | cons f rest =>
        have hfirst := h.first
        rw [next, List.tail_cons] at hfirst
        rw [next] at empty
        simp [empty f rfl, frameText_eq_empty hfirst]
  rwa [hpending, String.append_empty] at htext

namespace Passage

/-- What holds of every passage whose run answers that request under that policy. -/
structure Answers (request : RelayRequest) (policy : WriteBack) (p : Passage) : Prop where
  request : p.path.run.request = request
  policy : p.path.run.policy = policy
  inOrder : p.path.chunks.receiverGone = false → p.arrived = p.consumed ++ p.path.chunks.items
  consumed : p.consumed <+: p.arrived
  listens : p.path.run.outcome = none → p.path.chunks.receiverGone = false
  forwards : p.path.run.outcome = none → p.path.run.source = .provider →
    p.path.run.Forwards p.consumed
  outcome : ∀ o, p.path.run.outcome = some o →
    o.source = p.path.run.source ∧ o.answer = p.path.run.answer ∧
      o.writeBack = p.path.run.submits o.termination
  /-- An answer that is called complete is the whole text. -/
  whole : ∀ o, p.path.run.outcome = some o → p.path.run.source = .provider →
    o.termination = .completed → Whole p.consumed ∧ o.answer = textOf p.consumed

theorem Answers.endRun {request : RelayRequest} {policy : WriteBack} {p : Passage}
    {termination : Termination} {tokens : UInt32} (h : Answers request policy p)
    (whole : p.path.run.source = .provider → termination = .completed →
      Whole p.consumed ∧ p.path.run.answer = textOf p.consumed) :
    Answers request policy
      { p with path := p.path.endRun (p.path.run.finish termination tokens) } := by
  refine ⟨h.request, h.policy, ?_, h.consumed, ?_, ?_, ?_, ?_⟩
  · intro present
    cases source : p.path.run.source with
    -- A run that forwards lets go of the channel when it ends.
    | provider => simp [Path.endRun, source] at present
    | cache =>
        simp only [Path.endRun, Run.finish_source, source, reduceCtorEq, if_false] at present ⊢
        exact h.inOrder present
  · exact fun alive => nomatch alive
  · exact fun alive => nomatch alive
  · intro o ended
    cases ended
    exact ⟨rfl, rfl, rfl⟩
  · intro o ended
    cases ended
    exact whole

/-- Every step keeps this. -/
theorem answers_step {request : RelayRequest} {policy : WriteBack} {p p' : Passage} {a : Action}
    (h : Answers request policy p) (step : Step p a p') : Answers request policy p' := by
  cases step with
  | @offered pump c rest works alive next present room =>
      refine ⟨h.request, h.policy, fun _ => ?_, ?_, h.listens, h.forwards, h.outcome, h.whole⟩
      · simp [h.inOrder present]
      · exact h.consumed.trans (List.prefix_append _ _)
  | @handed f rest alive next stays present room =>
      refine ⟨h.request, h.policy, h.inOrder, h.consumed, h.listens,
        fun _ source => (h.forwards alive source).handed next, ?_, ?_⟩
      · intro o ended
        simp [alive] at ended
      · intro o ended
        simp [alive] at ended
  | @lost f rest alive next gone =>
      rcases p.path.run.endWithout_eq f with hend | ⟨tokens, source, following, empty, hend⟩
      · rw [hend]
        exact h.endRun fun _ completed => nomatch completed
      · rw [hend]
        refine h.endRun fun _ _ => ?_
        -- All that is lost is the mark of the end; the text has been handed over.
        have forwards := h.forwards alive source
        exact ⟨forwards.complete tokens following, forwards.answer_eq (by simp [next, empty])⟩
  | @completed tokens alive empty last =>
      refine h.endRun fun source _ => ?_
      have forwards := h.forwards alive source
      exact ⟨forwards.complete tokens last, forwards.answer_eq (by simp [empty])⟩
  | left => exact h.endRun fun _ completed => nomatch completed
  | @took c rest alive empty more stays next fine =>
      have still : (p.path.run.takeChunk c).outcome = none := by
        rw [Run.takeChunk_of_fine _ fine]
        exact alive
      have same : (p.path.run.takeChunk c).source = p.path.run.source := by
        rw [Run.takeChunk_of_fine _ fine]
      have order := h.inOrder (h.listens alive)
      rw [next] at order
      refine ⟨?_, ?_, ?_, ?_, fun _ => h.listens alive, ?_, ?_, ?_⟩
      · rw [Run.takeChunk_of_fine _ fine]
        exact h.request
      · rw [Run.takeChunk_of_fine _ fine]
        exact h.policy
      · simp [order]
      · exact ⟨rest, by simp [order]⟩
      · intro _ source
        exact (h.forwards alive (same ▸ source)).took empty more fine
      · intro o ended
        simp [still] at ended
      · intro o ended
        simp [still] at ended
  | @failed c rest message alive empty more stays next error =>
      have order := h.inOrder (h.listens alive)
      rw [next] at order
      refine ⟨h.request, h.policy, ?_, ⟨rest, by simp [order]⟩, ?_, ?_, ?_, ?_⟩
      · intro present
        cases source : p.path.run.source with
        | provider => simp [Path.endRun, source] at present
        | cache => simp [Path.endRun, source, order]
      · exact fun alive => nomatch alive
      · exact fun alive => nomatch alive
      · intro o ended
        cases ended
        exact ⟨rfl, rfl, rfl⟩
      · intro o ended _ completed
        cases ended
        cases completed
  | unterminated => exact h.endRun fun _ completed => nomatch completed
  | fed unpumped alive present room =>
      refine ⟨h.request, h.policy, fun _ => ?_, ?_, h.listens, h.forwards, h.outcome, h.whole⟩
      · simp [h.inOrder present]
      · exact h.consumed.trans (List.prefix_append _ _)
  | stopped | read | taken | cancelled | closed | hungUp =>
      exact ⟨h.request, h.policy, h.inOrder, h.consumed, h.listens, h.forwards, h.outcome, h.whole⟩

/-- A run that has ended does nothing more. -/
theorem run_of_ended {p p' : Passage} {a : Action} (ended : p.path.run.outcome.isSome = true)
    (step : Step p a p') : p'.path.run = p.path.run := by
  cases step with
  | handed alive | lost alive | completed alive | left alive | took alive | failed alive
  | unterminated alive =>
      rw [alive] at ended
      cases ended
  | offered | stopped | read | taken | cancelled | closed | fed | hungUp => rfl

/-- A record that is submitted to the cache holds the answer that a provider gave to the request,
and the policy allows that it is kept. -/
theorem Answers.of_submission {request : RelayRequest} {policy : WriteBack} {p : Passage}
    {r : Cache.Record} (h : Answers request policy p)
    (submitted : p.path.run.submission? = some r) :
    ∃ o, p.path.run.outcome = some o ∧ o.source = .provider ∧ o.answer = r.response ∧
      request.model = r.model ∧ r.response ≠ "" ∧ policy.allows o.termination = true ∧
      (o.termination = .completed → Whole p.consumed ∧ o.answer = textOf p.consumed) := by
  unfold Run.submission? at submitted
  split at submitted
  · rename_i o ended
    split at submitted
    · rename_i kept
      cases submitted
      obtain ⟨hsource, hanswer, hkept⟩ := h.outcome o ended
      rw [kept, Run.submits] at hkept
      simp only [Bool.true_eq, Bool.and_eq_true, decide_eq_true_eq, Bool.not_eq_true',
        String.isEmpty_eq_false_iff] at hkept
      obtain ⟨⟨source, nonempty⟩, allowed⟩ := hkept
      refine ⟨o, ended, hsource.trans source, rfl, by rw [h.request], hanswer ▸ nonempty,
        h.policy ▸ allowed, h.whole o ended source⟩
    · cases submitted
  · cases submitted

theorem answers_opened {path : Path} (listens : path.chunks.receiverGone = false)
    (empty : path.chunks.items = []) (ended : path.run.outcome = none)
    (nothing : path.run.source = .provider → path.run.Forwards []) :
    Answers path.run.request path.run.policy { path } where
  request := rfl
  policy := rfl
  inOrder _ := by simp [empty]
  consumed := List.nil_prefix
  listens _ := listens
  forwards _ := nothing
  outcome o h := by simp [ended] at h
  whole o h := by simp [ended] at h

end Passage

end AnswerGateway.Relay
