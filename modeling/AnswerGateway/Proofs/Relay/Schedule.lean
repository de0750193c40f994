import AnswerGateway.Proofs.Relay.Progress

/-!
The schedule of a path is one of those of a passage. A path lets its pump and its run work in turn
until both wait; whatever a client or a sender of chunks does with it is also a run of a passage, so
what holds of every run of a passage holds of it.
-/

namespace AnswerGateway.Relay

open Completion

namespace Path

/-- Whether a run of a passage can go along from one path to another. -/
def Follows (p p' : Path) : Prop :=
  ∀ passage : Passage, passage.path = p →
    ∃ actions passage', passage.run? actions = some passage' ∧ passage'.path = p'

variable {p p' : Path}

theorem Follows.refl (p : Path) : p.Follows p :=
  fun passage same => ⟨[], passage, rfl, same⟩

theorem Follows.trans {p'' : Path} (first : p.Follows p') (second : p'.Follows p'') :
    p.Follows p'' := by
  intro passage same
  obtain ⟨actions, passage', run, same'⟩ := first passage same
  obtain ⟨actions', passage'', run', same''⟩ := second passage' same'
  refine ⟨actions ++ actions', passage'', ?_, same''⟩
  simp only [Passage.run?] at run run' ⊢
  rw [Trace.run?_append, run, Option.bind_some, run']

theorem Follows.of_step
    (step : ∀ passage : Passage, passage.path = p →
      ∃ a passage', passage.step? a = some passage' ∧ passage'.path = p') : p.Follows p' := by
  intro passage same
  obtain ⟨a, passage', hstep, same'⟩ := step passage same
  exact ⟨[a], passage', (Trace.run?_cons _).mpr ⟨passage', hstep, rfl⟩, same'⟩

theorem follows_runStep (h : p.runStep = some p') : p.Follows p' := by
  refine .of_step fun passage same =>
    ⟨.run, { passage with path := p', consumed := passage.consumed ++ Passage.awaited p }, ?_, rfl⟩
  subst same
  simp only [Passage.step?, Passage.advance?, h, Option.map_some]

theorem follows_pumpStep (h : p.pumpStep = some p') : p.Follows p' := by
  refine .of_step fun passage same =>
    ⟨.pump, { passage with
      path := p'
      arrived := passage.arrived ++ p'.chunks.items.drop p.chunks.items.length }, ?_, rfl⟩
  subst same
  simp only [Passage.step?, Passage.pump?, h, Option.map_some]

theorem follows_step (h : p.step = some p') : p.Follows p' := by
  unfold step at h
  cases hrun : p.runStep with
  | some next =>
      obtain rfl : next = p' := by simpa [hrun] using h
      exact follows_runStep hrun
  | none => exact follows_pumpStep (by simpa [hrun] using h)

/-- Letting pump and run work is a run of the passage, however long they are let. -/
theorem follows_runFor (fuel : Nat) (p : Path) : p.Follows (p.runFor fuel) := by
  induction fuel generalizing p with
  | zero => exact .refl p
  | succ fuel ih =>
      unfold runFor
      cases hstep : p.step with
      | none => exact .refl p
      | some next => exact (follows_step hstep).trans (ih next)

theorem follows_settle (p : Path) : p.Follows p.settle := follows_runFor _ p

theorem follows_cancelled (p : Path) : p.Follows { p with cancelled := true } := by
  refine .of_step fun passage same =>
    ⟨.cancel, { passage with path := { passage.path with cancelled := true } }, rfl, ?_⟩
  rw [same]

theorem follows_closed (p : Path) : p.Follows { p with frames := p.frames.dropReceiver } := by
  refine .of_step fun passage same => ⟨.close, _, rfl, ?_⟩
  rw [same]

theorem follows_cancel (p : Path) : p.Follows p.cancel :=
  (follows_cancelled p).trans (follows_settle _)

theorem follows_dropFrames (p : Path) : p.Follows p.dropFrames :=
  (follows_closed p).trans (follows_settle _)

theorem follows_leave (p : Path) : p.Follows p.leave :=
  ((follows_cancelled p).trans (follows_closed _)).trans (follows_settle _)

/-- Whatever the client learns by asking for a frame, the asking is a run of the passage. -/
theorem follows_receive (p : Path) : p.Follows { p with frames := (receive p.frames).2 } := by
  cases hreceive : receive p.frames with
  | mk news frames =>
      cases news with
      | item f =>
          refine .of_step fun passage same =>
            ⟨.take, { passage with
              path := { p with frames }
              taken := passage.taken ++ [f] }, ?_, rfl⟩
          subst same
          simp only [Passage.step?, Passage.take?, hreceive]
      | pending | closed | dropped =>
          have unchanged : frames = p.frames := by
            unfold receive at hreceive
            split at hreceive
            · exact (Prod.mk.inj hreceive).2.symm
            · split at hreceive <;> simp_all
          rw [unchanged]
          exact .refl p

theorem follows_takeFrame (p : Path) : p.Follows p.takeFrame.2 :=
  (follows_receive p).trans (follows_settle _)

theorem follows_drainUpTo (fuel : Nat) (p : Path) : p.Follows (p.drainUpTo fuel).2.2 := by
  induction fuel generalizing p with
  | zero => exact .refl p
  | succ fuel ih =>
      have taken := follows_takeFrame p
      unfold drainUpTo
      cases htake : p.takeFrame with
      | mk news next =>
          rw [htake] at taken
          cases news with
          | item f => exact taken.trans (ih next)
          | pending | closed | dropped => exact taken

theorem follows_drain (p : Path) : p.Follows p.drain.2.2 := follows_drainUpTo _ p

theorem follows_readUpTo (limit : Nat) (p : Path) : p.Follows (p.readUpTo limit).2.2 := by
  induction limit generalizing p with
  | zero => exact .refl p
  | succ limit ih =>
      have taken := follows_takeFrame p
      unfold readUpTo
      cases htake : p.takeFrame with
      | mk news next =>
          rw [htake] at taken
          cases news with
          | item f => exact taken.trans (ih next)
          | pending | closed | dropped => exact taken

theorem follows_hangUp (unpumped : p.pump = none) :
    p.Follows { p with chunks := p.chunks.dropSender } := by
  refine .of_step fun passage same =>
    ⟨.hangUp, { passage with path := { p with chunks := p.chunks.dropSender } }, ?_, rfl⟩
  subst same
  simp [Passage.step?, Passage.hangUp?, unpumped]

theorem follows_offerChunk {c : Chunk} (unpumped : p.pump = none)
    (alive : p.chunks.senderGone = false) :
    p.Follows { p with chunks := (offerChunk c p.chunks).2 } := by
  cases hoffer : p.chunks.offer c with
  | accepted chunks =>
      refine .of_step fun passage same =>
        ⟨.feed c, { passage with
          path := { p with chunks }
          arrived := passage.arrived ++ [c] }, ?_, ?_⟩
      · subst same
        simp [Passage.step?, Passage.feed?, unpumped, alive, hoffer]
      · simp [offerChunk, hoffer]
  | full | closed =>
      have unchanged : (offerChunk c p.chunks).2 = p.chunks := by simp [offerChunk, hoffer]
      rw [unchanged]
      exact .refl p

/-- What a sender from outside does to a path that has no pump is a run of the passage. -/
theorem follows_send (unpumped : p.pump = none) (act : SenderAct) : p.Follows (p.send act).2 := by
  suffices applied : p.Follows { p with chunks := (act.apply p.chunks).2 } from
    applied.trans (follows_settle _)
  have unlessGone {act : Channel Chunk → SenderNews × Channel Chunk}
      (follows : p.chunks.senderGone = false → p.Follows { p with chunks := (act p.chunks).2 }) :
      p.Follows { p with chunks := (unlessGone p.chunks act).2 } := by
    cases gone : p.chunks.senderGone with
    | true =>
        simp only [Completion.unlessGone, gone, if_true]
        exact .refl p
    | false =>
        simp only [Completion.unlessGone, gone, Bool.false_eq_true, if_false]
        exact follows gone
  cases act with
  | close => exact follows_hangUp unpumped
  | look => exact unlessGone fun _ => .refl p
  | content text => exact unlessGone (follows_offerChunk unpumped)
  | finish | fail =>
      exact unlessGone fun alive => (follows_offerChunk unpumped alive).trans
        (follows_hangUp unpumped)

/-- However a live path has been used, what waits for the client is a stretch of the promised
frames, and more may come just as long as the run has not ended. -/
theorem frames_of_follows {request : RelayRequest} {policy : WriteBack} {reads : List Read}
    {chunkRoom frameRoom : Nat}
    (used : (live request policy reads chunkRoom frameRoom).Follows p') :
    p'.frames.items <:+: promised reads ∧ p'.frames.senderGone = p'.ended := by
  obtain ⟨actions, passage, run, rfl⟩ := used (.opened _) rfl
  have flows : ∃ pump, passage.Flowing (promised reads) pump :=
    Passage.run_induction (motive := fun _ passage => ∃ pump, passage.Flowing (promised reads) pump)
      ⟨_, Passage.flowing_opened request policy reads chunkRoom frameRoom⟩
      (fun _ _ _ _ ⟨_, flowing⟩ step => Passage.flowing_step flowing step) run
  obtain ⟨pump, flowing⟩ := flows
  refine ⟨?_, flowing.ended⟩
  exact (List.suffix_append passage.taken _).isInfix.trans flowing.begins.isInfix

end Path

end AnswerGateway.Relay
