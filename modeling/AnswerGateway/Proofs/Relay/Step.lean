import AnswerGateway.Proofs.Completion.Pump
import AnswerGateway.Proofs.Relay.Frames
import AnswerGateway.Proofs.Relay.Passage

/-!
Every step of a passage, spelled out, and induction over its runs. What the pump and the run of a
path do is read off here once; an invariant of all runs is shown by going through the cases of
`Step`.
-/

namespace AnswerGateway

namespace Relay

open Completion

namespace Run

variable (r : Run)

@[simp]
theorem finish_outcome (termination : Termination) (tokenUsage : UInt32) :
    (r.finish termination tokenUsage).outcome =
      some { source := r.source, termination, answer := r.answer, tokenUsage
             writeBack := r.submits termination } := rfl

@[simp]
theorem finish_source (termination : Termination) (tokenUsage : UInt32) :
    (r.finish termination tokenUsage).source = r.source := rfl

/-- A frame that cannot be handed over ends the run. -/
theorem endWithout_eq (f : Frame) :
    r.endWithout f = r.finish .clientGone 0 ∨
      ∃ tokens, r.source = .provider ∧ r.following = .complete tokens ∧ f.text = "" ∧
        r.endWithout f = r.finish .completed tokens := by
  unfold endWithout
  split
  · rename_i tokens source following
    exact .inr ⟨tokens, source, following, rfl, rfl⟩
  · rename_i tokens source following
    exact .inr ⟨tokens, source, following, rfl, rfl⟩
  · exact .inl rfl

@[simp]
theorem endWithout_outcome_isSome (f : Frame) : (r.endWithout f).outcome.isSome = true := by
  rcases r.endWithout_eq f with hend | ⟨tokens, -, -, -, hend⟩ <;> rw [hend] <;> rfl

@[simp]
theorem endWithout_source (f : Frame) : (r.endWithout f).source = r.source := by
  rcases r.endWithout_eq f with hend | ⟨tokens, -, -, -, hend⟩ <;> rw [hend] <;> rfl

@[simp]
theorem endWithout_answer (f : Frame) : (r.endWithout f).answer = r.answer := by
  rcases r.endWithout_eq f with hend | ⟨tokens, -, -, -, hend⟩ <;> rw [hend] <;> rfl

@[simp]
theorem takeChunk_source (c : Chunk) : (r.takeChunk c).source = r.source := by
  unfold takeChunk
  split <;> rfl

theorem letGo_of_ended {r : Run} (h : r.outcome.isSome = true) (chunks : Channel Chunk)
    (frames : Channel Frame) :
    r.letGo chunks frames =
      (r, if r.source = .provider then chunks.dropReceiver else chunks, frames.dropSender) := by
  simp [letGo, h]

theorem letGo_of_alive {r : Run} (h : r.outcome = none) (chunks : Channel Chunk)
    (frames : Channel Frame) : r.letGo chunks frames = (r, chunks, frames) := by
  simp [letGo, h]

theorem takeChunk_of_error {c : Chunk} {message : String} (h : c.error = some message) :
    r.takeChunk c = r.finish (.providerError message) 0 := by
  simp [takeChunk, h]

theorem takeChunk_of_fine {c : Chunk} (h : c.error = none) :
    r.takeChunk c =
      { r with
        pending := chunkFrames c
        following := if c.done then .complete c.tokenUsage else .more } := by
  simp [takeChunk, h, chunkFrames]

end Run

namespace Passage

theorem step_pump {p p' : Passage} (h : p.pump? = some p') : Step p .pump p' := by
  obtain ⟨path, hpath, rfl⟩ := Option.map_eq_some_iff.mp h
  simp only [Path.pumpStep, Option.bind_eq_bind, Option.bind_eq_some_iff] at hpath
  obtain ⟨pump, works, ⟨after, chunks⟩, hstep, hpath⟩ := hpath
  cases hpath
  obtain ⟨alive, step⟩ := Pump.step_cases hstep
  cases step with
  | offered next present room => simpa using Step.offered works alive next present room
  | stopped why => simpa using Step.stopped works alive why
  | read empty progress present next => simpa using Step.read works alive empty progress next

private theorem endRun_eq {p : Path} {r after : Run} {chunks : Channel Chunk}
    {frames : Channel Frame} (ended : r.outcome.isSome = true)
    (h : some (r.letGo p.chunks p.frames) = some (after, chunks, frames)) :
    { p with run := after, chunks, frames } = p.endRun r := by
  rw [Run.letGo_of_ended ended] at h
  cases h
  rfl

theorem step_advance {p p' : Passage} (h : p.advance? = some p') : Step p .run p' := by
  obtain ⟨path, hpath, rfl⟩ := Option.map_eq_some_iff.mp h
  simp only [Path.runStep, Option.bind_eq_bind, Option.bind_eq_some_iff] at hpath
  obtain ⟨⟨after, chunks, frames⟩, hstep, hpath⟩ := hpath
  obtain rfl := Option.some.inj hpath
  unfold Run.step at hstep
  split at hstep
  · cases hstep
  · rename_i goesOn
    have alive : p.path.run.outcome = none := by simpa using goesOn
    split at hstep
    · rename_i f rest next
      have idle : awaited p.path = [] := by simp [awaited, next]
      rw [idle, List.append_nil]
      split at hstep
      · rename_i gone
        rw [endRun_eq (p.path.run.endWithout_outcome_isSome f) hstep]
        exact .lost alive next (.inl gone)
      · rename_i stays
        rcases p.path.frames.offer_cases f with
          ⟨gone, hoffer⟩ | ⟨present, room, hoffer⟩ | ⟨-, -, hoffer⟩
        · rw [hoffer] at hstep
          rw [endRun_eq (p.path.run.endWithout_outcome_isSome f) hstep]
          exact .lost alive next (.inr gone)
        · rw [hoffer] at hstep
          simp only [Option.some.injEq, Prod.mk.injEq] at hstep
          obtain ⟨rfl, rfl, rfl⟩ := hstep
          exact .handed alive next (by simpa using stays) present room
        · rw [hoffer] at hstep
          cases hstep
    · rename_i empty
      split at hstep
      · rename_i tokens last
        have idle : awaited p.path = [] := by simp [awaited, last]
        rw [idle, List.append_nil, endRun_eq rfl hstep]
        exact .completed alive empty last
      · rename_i more
        split at hstep
        · rename_i gone
          have idle : awaited p.path = [] := by simp [awaited, gone]
          rw [idle, List.append_nil, endRun_eq rfl hstep]
          exact .left alive empty more gone
        · rename_i notGone
          have stays : p.path.cancelled = false := by simpa using notGone
          have waits : awaited p.path = p.path.chunks.items.take 1 := by
            simp [awaited, alive, empty, more, stays]
          rw [waits]
          unfold Channel.take at hstep
          cases next : p.path.chunks.items with
          | nil =>
              cases closes : p.path.chunks.senderGone with
              | false => simp [next, closes] at hstep
              | true =>
                  simp only [next, closes, if_true] at hstep
                  rw [endRun_eq rfl hstep]
                  simpa using Step.unterminated alive empty more stays next closes
          | cons c rest =>
              simp only [next] at hstep
              cases error : c.error with
              | none =>
                  have open? : (p.path.run.takeChunk c).outcome = none := by
                    rw [Run.takeChunk_of_fine _ error]
                    exact alive
                  rw [Run.letGo_of_alive open?] at hstep
                  simp only [Option.some.injEq, Prod.mk.injEq] at hstep
                  obtain ⟨rfl, rfl, rfl⟩ := hstep
                  exact .took alive empty more stays next error
              | some message =>
                  rw [Run.takeChunk_of_error _ error] at hstep
                  have path := endRun_eq
                    (p := { p.path with chunks := { p.path.chunks with items := rest } }) rfl hstep
                  simp only at path
                  rw [path]
                  exact .failed alive empty more stays next error

theorem step_of_step? {p p' : Passage} {a : Action} (h : p.step? a = some p') :
    Step p a p' := by
  cases a with
  | pump => exact step_pump h
  | run => exact step_advance h
  | take =>
      simp only [step?, take?, receive] at h
      split at h
      · rename_i f frames hreceive
        obtain ⟨present, rest, next, rfl⟩ := receive_item hreceive
        cases h
        exact .taken present next
      · cases h
  | cancel =>
      cases h
      exact .cancelled
  | close =>
      cases h
      exact .closed
  | feed c =>
      simp only [step?, feed?] at h
      split at h
      · rename_i open?
        simp only [Bool.and_eq_true, Option.isNone_iff_eq_none, Bool.not_eq_true'] at open?
        rcases p.path.chunks.offer_cases c with
          ⟨-, hoffer⟩ | ⟨present, room, hoffer⟩ | ⟨-, -, hoffer⟩
        · simp [hoffer] at h
        · rw [hoffer] at h
          cases h
          exact .fed open?.1 open?.2 present room
        · simp [hoffer] at h
      · cases h
  | hangUp =>
      simp only [step?, hangUp?] at h
      split at h
      · rename_i unpumped
        cases h
        exact .hungUp (by simpa using unpumped)
      · cases h

theorem run_induction {start : Passage} {motive : List Action → Passage → Prop}
    (initial : motive [] start)
    (kept : ∀ actions p a p', motive actions p → Step p a p' → motive (actions ++ [a]) p')
    {actions : List Action} {p : Passage} (h : start.run? actions = some p) : motive actions p :=
  Trace.induction initial
    (fun actions p a p' holds step => kept actions p a p' holds (step_of_step? step)) h

end Passage

end Relay

end AnswerGateway
