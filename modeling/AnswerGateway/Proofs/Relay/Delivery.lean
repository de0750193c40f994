import AnswerGateway.Proofs.Relay.Step

/-!
What the client of a provider's answer gets. However the pump, the run and the client take turns,
the client takes the promised frames in their order; and unless it leaves it gets all of them, for
as long as something is missing one of the three can move.
-/

namespace AnswerGateway

namespace Relay

open Completion

/-- The path of a provider's answer whose body delivers these reads and then ends. -/
def Path.live (request : RelayRequest) (policy : WriteBack) (reads : List Read)
    (chunkRoom frameRoom : Nat) : Path :=
  { pump := some { body := { reads } }
    chunks := .withCapacity chunkRoom
    run := .ofStream request policy
    frames := .withCapacity frameRoom }

namespace Passage

def Present (p : Passage) : Prop :=
  p.path.cancelled = false ∧ p.path.frames.receiverGone = false

/-- The frames that a run will still make of what is on its way to it. -/
def ahead (p : Passage) (pump : Pump) : List Frame :=
  match p.path.run.following with
  | .more => framesOf (p.path.chunks.items ++ pump.due)
  | .complete _ => []

/-- What holds of a live path at all times, the promised frames being given. -/
structure Flowing (frames : List Frame) (pump : Pump) (p : Passage) : Prop where
  works : p.path.pump = some pump
  body : pump.body.hangs = false
  source : p.path.run.source = .provider
  chunkRoom : 0 < p.path.chunks.capacity
  frameRoom : 0 < p.path.frames.capacity
  sender : p.path.chunks.senderGone = pump.stopped
  consumer : p.path.run.outcome = none → p.path.chunks.receiverGone = false
  ended : p.path.frames.senderGone = p.path.run.outcome.isSome
  /-- What the client takes and has taken is promised. -/
  begins : p.taken ++ p.path.frames.items <+: frames
  /-- Nothing is lost on the way. -/
  whole : p.Present → p.path.run.outcome = none →
    p.taken ++ (p.path.frames.items ++ (p.path.run.pending ++ p.ahead pump)) = frames
  finished : p.Present → p.path.run.outcome.isSome = true → p.taken ++ p.path.frames.items = frames

namespace Flowing

variable {frames : List Frame} {pump : Pump} {p : Passage}

/-- A step of the pump changes neither the run nor the client, nor what they will get. -/
theorem withPump {after : Pump} {chunks : Channel Chunk} {arrived : List Chunk}
    (h : Flowing frames pump p) (body : after.body.hangs = false)
    (chunkRoom : chunks.capacity = p.path.chunks.capacity)
    (sender : chunks.senderGone = after.stopped)
    (consumer : chunks.receiverGone = p.path.chunks.receiverGone)
    (same : p.path.chunks.receiverGone = false →
      chunks.items ++ after.due = p.path.chunks.items ++ pump.due) :
    Flowing frames after
      { p with path := { p.path with pump := some after, chunks }, arrived } := by
  refine ⟨rfl, body, h.source, chunkRoom ▸ h.chunkRoom, h.frameRoom, sender,
    fun alive => consumer ▸ h.consumer alive, h.ended, h.begins, ?_, h.finished⟩
  intro present alive
  have hsame := same (h.consumer alive)
  have hwhole := h.whole present alive
  simp only [ahead] at hwhole ⊢
  rw [hsame]
  exact hwhole

theorem endRun {r : Run} {consumed : List Chunk} {path : Path} (h : Flowing frames pump p)
    (same : path = p.path ∨
      ∃ rest, path = { p.path with chunks := { p.path.chunks with items := rest } })
    (source : r.source = .provider) (ended : r.outcome.isSome = true)
    (nothing : p.Present → p.taken ++ p.path.frames.items = frames) :
    Flowing frames pump { p with path := path.endRun r, consumed } := by
  have hended : r.outcome ≠ none := Option.isSome_iff_ne_none.mp ended
  rcases same with rfl | ⟨rest, rfl⟩
  all_goals
    refine ⟨h.works, h.body, source, ?_, h.frameRoom, ?_, ?_, ?_, h.begins, ?_, ?_⟩
    · simpa [Path.endRun, source] using h.chunkRoom
    · simpa [Path.endRun, source] using h.sender
    · exact fun alive => absurd alive hended
    · simp [Path.endRun, ended]
    · exact fun _ alive => absurd alive hended
    · exact fun present _ => nothing present

end Flowing

/-- Every step keeps the promise. -/
theorem flowing_step {frames : List Frame} {pump : Pump} {p p' : Passage} {a : Action}
    (h : Flowing frames pump p) (step : Step p a p') : ∃ after, Flowing frames after p' := by
  cases step with
  | offered works alive next present room =>
      obtain rfl := Option.some.inj (h.works.symm.trans works)
      refine ⟨_, h.withPump h.body rfl ?_ rfl fun _ => ?_⟩
      · exact h.sender
      · simp [Pump.due_of_outbox alive next]
  | stopped works alive why =>
      obtain rfl := Option.some.inj (h.works.symm.trans works)
      refine ⟨_, h.withPump h.body rfl rfl rfl fun present => ?_⟩
      -- What the pump has read it drops only when nobody listens.
      rcases why with ⟨empty, complete⟩ | gone
      · rw [Pump.due_of_complete empty complete]
        simp [Pump.due]
      · rw [present] at gone
        cases gone
  | @read pump' x body works alive empty progress next =>
      obtain rfl := Option.some.inj (h.works.symm.trans works)
      have hbody : body.hangs = false := (Body.next_hangs next).trans h.body
      refine ⟨_, h.withPump hbody rfl h.sender rfl fun _ => ?_⟩
      rw [Pump.due_of_read alive empty next]
  | handed alive next stays present room =>
      have hwhole := h.whole ⟨stays, present⟩ alive
      rw [next] at hwhole
      refine ⟨pump, h.works, h.body, h.source, h.chunkRoom, h.frameRoom, h.sender, h.consumer,
        h.ended, ?_, fun _ _ => ?_, fun _ ended => ?_⟩
      · exact ⟨_, by simpa using hwhole⟩
      · simpa [ahead] using hwhole
      · simp [alive] at ended
  | @lost f rest alive next gone =>
      have source : (p.path.run.endWithout f).source = .provider := by
        rcases p.path.run.endWithout_eq f with hend | ⟨_, -, -, -, hend⟩ <;> rw [hend] <;>
          exact h.source
      refine ⟨pump, h.endRun (.inl rfl) source (Run.endWithout_outcome_isSome _ f)
        fun present => ?_⟩
      -- A frame is lost only when the client has left.
      rcases gone with gone | gone
      · exact absurd present.1 (by simp [gone])
      · exact absurd present.2 (by simp [gone])
  | completed alive empty last =>
      refine ⟨pump, h.endRun (.inl rfl) h.source rfl fun present => ?_⟩
      simpa [empty, ahead, last] using h.whole present alive
  | left alive empty more gone =>
      exact ⟨pump, h.endRun (.inl rfl) h.source rfl fun present =>
        absurd present.1 (by simp [gone])⟩
  | @took c rest alive empty more stays next fine =>
      refine ⟨pump, h.works, h.body, ?_, h.chunkRoom, h.frameRoom, h.sender, fun _ => ?_, ?_,
        h.begins, fun present _ => ?_, fun _ ended => ?_⟩
      · rw [Run.takeChunk_of_fine _ fine]
        exact h.source
      · exact h.consumer alive
      · rw [Run.takeChunk_of_fine _ fine]
        exact h.ended
      · have hwhole := h.whole present alive
        simp only [empty, ahead, more, next, List.cons_append, framesOf_fine fine,
          List.nil_append] at hwhole
        rw [← hwhole]
        cases hdone : c.done <;>
          simp [ahead, Run.takeChunk_of_fine _ fine, hdone]
      · rw [Run.takeChunk_of_fine _ fine] at ended
        simp [alive] at ended
  | @failed c rest message alive empty more stays next error =>
      refine ⟨pump, h.endRun (.inr ⟨rest, rfl⟩) h.source rfl fun present => ?_⟩
      simpa [empty, ahead, more, next, framesOf_error error] using h.whole present alive
  | unterminated alive empty more stays next closes =>
      refine ⟨pump, h.endRun (.inl rfl) h.source rfl fun present => ?_⟩
      -- Nothing is due any more, so nothing is missing either.
      have stopped : pump.stopped = true := h.sender.symm.trans closes
      simpa [empty, ahead, more, next, Pump.due, stopped, framesOf] using h.whole present alive
  | @taken f rest present next =>
      refine ⟨pump, h.works, h.body, h.source, h.chunkRoom, h.frameRoom, h.sender, h.consumer,
        h.ended, ?_, fun present alive => ?_, fun present ended => ?_⟩
      · simpa [next] using h.begins
      · simpa [next, ahead] using h.whole present alive
      · simpa [next] using h.finished present ended
  | cancelled =>
      refine ⟨pump, h.works, h.body, h.source, h.chunkRoom, h.frameRoom, h.sender, h.consumer,
        h.ended, h.begins, fun present => ?_, fun present => ?_⟩
      · cases present.1
      · cases present.1
  | closed =>
      refine ⟨pump, h.works, h.body, h.source, h.chunkRoom, h.frameRoom, h.sender, h.consumer,
        h.ended, ?_, fun present => ?_, fun present => ?_⟩
      · simpa using (List.prefix_append p.taken _).trans h.begins
      · cases present.2
      · cases present.2
  | fed unpumped | hungUp unpumped =>
      rw [h.works] at unpumped
      cases unpumped

end Passage

end Relay

end AnswerGateway
