import AnswerGateway.Proofs.Relay.Delivery

/-!
The live path never stands still before its end, and comes to its end. While the client stays, the
pump, the run or the client can move as long as a promised frame is missing; and each of their steps
brings the end nearer by a number that the reads of the body bound.
-/

namespace AnswerGateway

namespace Relay

open Completion

namespace Passage

def effort (p : Passage) : Nat :=
  p.path.pump.elim 0 Pump.effort + 7 * p.path.chunks.items.length +
    2 * p.path.run.pending.length + (if p.path.run.outcome.isSome then 0 else 1) +
    p.path.frames.items.length

theorem endRun_effort {p : Passage} {path : Path} {r : Run} {consumed : List Chunk}
    (alive : p.path.run.outcome = none) (ended : r.outcome.isSome = true)
    (pending : r.pending = []) (pump : path.pump = p.path.pump)
    (fewer : path.chunks.items.length ≤ p.path.chunks.items.length)
    (frames : path.frames = p.path.frames) :
    effort { p with path := path.endRun r, consumed } < p.effort := by
  have hchunks : (path.endRun r).chunks.items.length ≤ p.path.chunks.items.length := by
    unfold Path.endRun
    dsimp only
    split
    · exact Nat.zero_le _
    · exact fewer
  have hframes : (path.endRun r).frames.items = p.path.frames.items := by
    simp [Path.endRun, frames]
  have hpump : (path.endRun r).pump = p.path.pump := pump
  have hrun : (path.endRun r).run = r := rfl
  simp only [effort, hframes, hpump, hrun, ended, pending, alive, if_true, List.length_nil,
    Option.isSome_none, Bool.false_eq_true, if_false]
  omega

theorem endWithout_pending (r : Run) (f : Frame) : (r.endWithout f).pending = [] := by
  rcases r.endWithout_eq f with hend | ⟨_, -, -, -, hend⟩ <;> rw [hend] <;> rfl

/-- Work lowers the effort, and whoever leaves does not raise it. -/
theorem effort_step {p p' : Passage} {a : Action} (pumped : p.path.pump.isSome = true)
    (step : Step p a p') : p'.effort + (if a.isWork then 1 else 0) ≤ p.effort := by
  cases step with
  | offered works alive next present room =>
      simp only [effort, works, Option.elim_some, Pump.effort, alive, Pump.due_of_outbox alive next,
        List.length_append, List.length_cons, List.length_nil, Action.isWork, if_true,
        Bool.false_eq_true, if_false]
      omega
  | stopped works alive why =>
      simp only [effort, works, Option.elim_some, Pump.effort, alive, Channel.dropSender_items,
        Action.isWork, if_true, Bool.false_eq_true, if_false]
      omega
  | read works alive empty progress next =>
      have hread := Pump.effort_read alive empty progress next
      simp only [effort, works, Option.elim_some, Action.isWork, if_true]
      omega
  | handed alive next stays present room =>
      simp only [effort, alive, next, List.length_append, List.length_cons, List.length_nil,
        Action.isWork, if_true, Option.isSome_none, Bool.false_eq_true, if_false]
      omega
  | lost alive next gone =>
      exact endRun_effort alive (Run.endWithout_outcome_isSome _ _) (endWithout_pending _ _) rfl
        (Nat.le_refl _) rfl
  | completed alive => exact endRun_effort alive rfl rfl rfl (Nat.le_refl _) rfl
  | left alive => exact endRun_effort alive rfl rfl rfl (Nat.le_refl _) rfl
  | @took c rest alive empty more stays next fine =>
      have hframes := length_chunkFrames_le c
      simp only [effort, Run.takeChunk_of_fine _ fine, alive, empty, next, List.length_cons,
        List.length_nil, Action.isWork, if_true, Option.isSome_none, Bool.false_eq_true, if_false]
      omega
  | failed alive empty more stays next error =>
      refine endRun_effort alive rfl rfl rfl ?_ rfl
      simp [next]
  | unterminated alive => exact endRun_effort alive rfl rfl rfl (Nat.le_refl _) rfl
  | taken present next =>
      simp only [effort, next, List.length_cons, Action.isWork, if_true]
      omega
  | cancelled => exact Nat.le_refl _
  | closed => simp [effort, Action.isWork]
  | fed unpumped | hungUp unpumped =>
      rw [unpumped] at pumped
      cases pumped

/-- The work of a run is bounded by what was to be done at its start. -/
theorem work_le_effort {frames : List Frame} {pump : Pump} {p p' : Passage} {more : List Action}
    (h : Flowing frames pump p) (run : p.run? more = some p') :
    more.countP Action.isWork + p'.effort ≤ p.effort := by
  induction more generalizing p pump with
  | nil =>
      cases run
      simp
  | cons a rest ih =>
      obtain ⟨next, hstep, hrest⟩ := (Trace.run?_cons _).mp run
      have step := step_of_step? hstep
      obtain ⟨after, hnext⟩ := flowing_step h step
      have hle := ih hnext hrest
      have hwork := effort_step (by simp [h.works]) step
      rw [List.countP_cons]
      omega

private theorem advances {p : Passage}
    (h : (p.path.run.step p.path.cancelled p.path.chunks p.path.frames).isSome = true) :
    (p.step? .run).isSome = true := by
  obtain ⟨⟨r, chunks, frames⟩, hstep⟩ := Option.isSome_iff_exists.mp h
  simp [step?, advance?, Path.runStep, hstep]

private theorem pumps {p : Passage} {pump : Pump} (works : p.path.pump = some pump)
    (h : (pump.step p.path.chunks).isSome = true) : (p.step? .pump).isSome = true := by
  obtain ⟨⟨after, chunks⟩, hstep⟩ := Option.isSome_iff_exists.mp h
  simp [step?, pump?, Path.pumpStep, works, hstep]

/-- While the client stays, either it has got everything and has learned that nothing more comes, or
one of the three can move. -/
theorem Flowing.progress {frames : List Frame} {pump : Pump} {p : Passage}
    (h : Flowing frames pump p) (present : p.Present) :
    (p.taken = frames ∧ (receive p.path.frames).1 = .closed) ∨
      ∃ a, a.isWork = true ∧ (p.step? a).isSome = true := by
  obtain ⟨stays, open?⟩ := present
  cases items : p.path.frames.items with
  | cons f rest =>
      exact .inr ⟨.take, rfl, by simp [step?, take?, receive, Channel.take, open?, items]⟩
  | nil =>
      cases outcome : p.path.run.outcome with
      | some o =>
          have hfinished := h.finished ⟨stays, open?⟩ (by simp [outcome])
          have hended := h.ended
          rw [outcome, Option.isSome_some] at hended
          rw [items, List.append_nil] at hfinished
          exact .inl ⟨hfinished, by simp [receive, Channel.take, open?, items, hended]⟩
      | none =>
          refine .inr ?_
          cases pending : p.path.run.pending with
          | cons f rest =>
              refine ⟨.run, rfl, advances ?_⟩
              simp [Run.step, outcome, pending, stays, Channel.offer, open?, items, h.frameRoom]
          | nil =>
              cases following : p.path.run.following with
              | complete tokens =>
                  exact ⟨.run, rfl, advances (by simp [Run.step, outcome, pending, following])⟩
              | more =>
                  cases chunks : p.path.chunks.items with
                  | cons c rest =>
                      refine ⟨.run, rfl, advances ?_⟩
                      simp [Run.step, outcome, pending, following, stays, Channel.take, chunks]
                  | nil =>
                      cases stopped : pump.stopped with
                      | true =>
                          have closes := h.sender.trans stopped
                          refine ⟨.run, rfl, advances ?_⟩
                          simp [Run.step, outcome, pending, following, stays, Channel.take, chunks,
                            closes]
                      | false =>
                          exact ⟨.pump, rfl, pumps h.works (Pump.step_isSome stopped h.body
                            (h.consumer outcome) chunks h.chunkRoom)⟩

def opened (path : Path) : Passage := { path }

theorem flowing_opened (request : RelayRequest) (policy : WriteBack) (reads : List Read)
    (chunkRoom frameRoom : Nat) :
    Flowing (promised reads) { body := { reads } }
      (opened (.live request policy reads chunkRoom frameRoom)) where
  works := rfl
  body := rfl
  source := rfl
  chunkRoom := Nat.le_max_right chunkRoom 1
  frameRoom := Nat.le_max_right frameRoom 1
  sender := rfl
  consumer _ := rfl
  ended := rfl
  begins := List.nil_prefix
  whole _ _ := rfl
  finished _ ended := nomatch ended

theorem present_step {p p' : Passage} {a : Action} (present : p.Present) (stays : a.leaves = false)
    (step : Step p a p') : p'.Present := by
  cases step with
  | cancelled | closed => cases stays
  | _ => exact present

/-- The parties alone bring a path to its end. -/
theorem exists_end {frames : List Frame} {pump : Pump} {p : Passage}
    (h : Flowing frames pump p) (present : p.Present) :
    ∃ more p', (∀ a ∈ more, a.isWork = true) ∧ p.run? more = some p' ∧ p'.taken = frames ∧
      (receive p'.path.frames).1 = .closed := by
  -- The induction is on what is still to be done, of which every step does some.
  induction heffort : p.effort using Nat.strongRecOn generalizing p pump with
  | ind effort ih =>
      rcases h.progress present with ⟨all, closed⟩ | ⟨a, work, moves⟩
      · exact ⟨[], p, by simp, rfl, all, closed⟩
      · obtain ⟨next, hstep⟩ := Option.isSome_iff_exists.mp moves
        have step := step_of_step? hstep
        obtain ⟨after, hnext⟩ := flowing_step h step
        have hless := effort_step (by simp [h.works]) step
        rw [work, if_pos rfl, heffort] at hless
        have stays : a.leaves = false := by cases a <;> first | rfl | cases work
        obtain ⟨more, p', allWork, run, ends⟩ :=
          ih next.effort hless hnext (present_step present stays step) rfl
        refine ⟨a :: more, p', ?_, (Trace.run?_cons _).mpr ⟨next, hstep, run⟩, ends⟩
        intro b member
        rcases List.mem_cons.mp member with rfl | later
        · exact work
        · exact allWork b later

/-- What the client of a live path gets, the promised frames being given and so many steps being
enough. -/
structure Delivered (frames : List Frame) (steps : Nat) (actions : List Action) (p : Passage) :
    Prop where
  /-- The client has taken a first part of the promised frames. -/
  begins : p.taken <+: frames
  /-- What waits for it continues that part. -/
  waiting : p.taken ++ p.path.frames.items <+: frames
  /-- Unless it has left it gets everything, and nothing stands still before. -/
  progress : (∀ a ∈ actions, a.leaves = false) →
    (p.taken = frames ∧ (receive p.path.frames).1 = .closed) ∨
      ∃ a, a.isWork = true ∧ (p.step? a).isSome = true
  /-- If it learns that nothing more comes it has got everything. -/
  whole : (∀ a ∈ actions, a.leaves = false) → (receive p.path.frames).1 = .closed →
    p.taken = frames
  /-- The parties need nobody else to come to that. -/
  completes : (∀ a ∈ actions, a.leaves = false) →
    ∃ more p', (∀ a ∈ more, a.isWork = true) ∧ p.run? more = some p' ∧ p'.taken = frames ∧
      (receive p'.path.frames).1 = .closed
  /-- They do not go on for ever. -/
  bounded : actions.countP Action.isWork ≤ steps

theorem Flowing.delivered {frames : List Frame} {pump : Pump} {p : Passage}
    {actions : List Action} {steps : Nat} (h : Flowing frames pump p)
    (stays : (∀ a ∈ actions, a.leaves = false) → p.Present)
    (bounded : actions.countP Action.isWork ≤ steps) : p.Delivered frames steps actions where
  begins := (List.prefix_append _ _).trans h.begins
  waiting := h.begins
  progress never := h.progress (stays never)
  whole never closed := by
    obtain ⟨empty, closes⟩ := receive_closed closed
    have hfinished := h.finished (stays never) (h.ended.symm.trans closes)
    rwa [empty, List.append_nil] at hfinished
  completes never := exists_end h (stays never)
  bounded := bounded

/-- On the live path the client is promised frames that depend on nothing but the reads of the body:
one for each piece of text and, if the answer does not break off, two that say that it is whole.
These it gets, however the parties take turns. -/
theorem live_delivered {request : RelayRequest} {policy : WriteBack} {reads : List Read}
    {chunkRoom frameRoom : Nat} {actions : List Action} {p : Passage}
    (run : (opened (.live request policy reads chunkRoom frameRoom)).run? actions = some p) :
    (∃ (texts : List String) (last : Chunk),
      chunksOf (reads ++ [.ended]) = texts.map Chunk.ofContent ++ [last] ∧
      ((∃ tokenUsage, last = .finished tokenUsage) ∧
          promised reads = texts.map Frame.delta ++ [.finish, .done] ∨
        (∃ message, last = .failed message) ∧ promised reads = texts.map Frame.delta)) ∧
    p.Delivered (promised reads)
      (reads.length + 8 * (chunksOf (reads ++ [.ended])).length + 3) actions := by
  have start := flowing_opened request policy reads chunkRoom frameRoom
  -- The client is there after a run in which it has done nothing to leave.
  have holds : (∃ pump, Flowing (promised reads) pump p) ∧
      ((∀ a ∈ actions, a.leaves = false) → p.Present) := by
    refine run_induction
      (motive := fun actions p => (∃ pump, Flowing (promised reads) pump p) ∧
        ((∀ a ∈ actions, a.leaves = false) → p.Present))
      ⟨⟨_, start⟩, fun _ => ⟨rfl, rfl⟩⟩ ?_ run
    rintro earlier p a p' ⟨⟨pump, flowing⟩, stays⟩ step
    refine ⟨flowing_step flowing step, fun never => ?_⟩
    have before := stays fun b member => never b (List.mem_append_left _ member)
    exact present_step before (never a (List.mem_append_right _ (List.mem_singleton_self a))) step
  obtain ⟨⟨pump, flowing⟩, stays⟩ := holds
  refine ⟨promised_eq reads, flowing.delivered stays ?_⟩
  have hwork := work_le_effort start run
  have heffort : (opened (.live request policy reads chunkRoom frameRoom)).effort =
      8 * (chunksOf (reads ++ [.ended])).length + (reads.length + 1) + 1 + 1 := rfl
  omega

/-- A greeting in two reads, the second of which begins inside a line. -/
def greeting : List Read :=
  let first := "data: \x7b\"choices\":[\x7b\"delta\":\x7b\"content\":\"Hello\"\x7d\x7d]\x7d\n\nda"
  [.bytes first.toUTF8.toList, .bytes "ta: [DONE]\n\n".toUTF8.toList]

/-- The greeting reaches a client that takes each frame at once. -/
theorem live_delivered_greeting :
    ∃ p, (opened (.live { model := "model", prompt := "question" } .never greeting 1 1)).run?
        [.pump, .pump, .run, .run, .take, .pump, .pump, .run, .run, .take, .run, .take, .run] =
          some p ∧
      p.taken = [.delta "Hello", .finish, .done] ∧
      p.Delivered (promised greeting) 21
        [.pump, .pump, .run, .run, .take, .pump, .pump, .run, .run, .take, .run, .take, .run] := by
  have happens :
      ((opened (.live { model := "model", prompt := "question" } .never greeting 1 1)).run?
        [.pump, .pump, .run, .run, .take, .pump, .pump, .run, .run, .take, .run, .take, .run]).map
          (·.taken) = some [.delta "Hello", .finish, .done] := by
    decide +kernel
  obtain ⟨p, run, taken⟩ := Option.map_eq_some_iff.mp happens
  have steps : greeting.length + 8 * (chunksOf (greeting ++ [.ended])).length + 3 = 21 := by
    decide +kernel
  exact ⟨p, run, taken, steps ▸ (live_delivered run).2⟩

end Passage

end Relay

end AnswerGateway
