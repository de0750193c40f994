import AnswerGateway.Proofs.Gateway.Provenance

/-!
A passage with an account of what its run does to others: the frames that the channel to the client
accepts, and the records that it submits to the cache. Every run of the passage has one account, for
no step asks it anything.
-/

namespace AnswerGateway

/-- The path of a prepared answer whose chunks come from this pump; without one, from outside. -/
def Setup.pathFrom (setup : Setup) (pump : Option Completion.Pump)
    (prepared : Relay.Prepared Unit) : Relay.Path :=
  { setup.path prepared with pump }

namespace Relay

/-- Whether the next step of the run finds that no more chunks will come. -/
def Path.meetsEnd (p : Path) : Bool :=
  p.run.outcome.isNone && p.run.pending.isEmpty && p.run.following = .more && !p.cancelled &&
    p.chunks.items.isEmpty && p.chunks.senderGone

structure Account where
  passage : Passage
  /-- The frames that the channel to the client has accepted. -/
  sent : List Frame := []
  /-- Whether the run has taken the end of the channel of chunks. -/
  drained : Bool := false
  submitted : List Cache.Record := []

namespace Account

open Passage (Action)

/-- The account after an action that has led to this passage. -/
def enter (s : Account) (a : Action) (after : Passage) : Account where
  passage := after
  sent := s.sent ++
    (if a = .run then after.path.frames.items.drop s.passage.path.frames.items.length else [])
  drained := s.drained || (a = .run && s.passage.path.meetsEnd)
  submitted := s.submitted ++ Gateway.submitted s.passage.path.run after.path.run

def step? (s : Account) (a : Action) : Option Account := (s.passage.step? a).map (s.enter a)

def run? (s : Account) (actions : List Action) : Option Account := Trace.run? step? s actions

def opened (path : Path) : Account := { passage := { path } }

theorem step?_passage (s : Account) (a : Action) :
    s.passage.step? a = (s.step? a).map passage := by
  rw [step?, Option.map_map]
  exact Option.map_id'.symm

/-- The account goes along with the run of the passage. -/
theorem run?_passage (s : Account) (actions : List Action) :
    s.passage.run? actions = (s.run? actions).map passage :=
  Trace.run?_map step? step?_passage s actions

theorem run_induction {start : Account} {motive : Account → Prop} (initial : motive start)
    (kept : ∀ s a after, motive s → Passage.Step s.passage a after → motive (s.enter a after))
    {actions : List Action} {s : Account} (h : start.run? actions = some s) : motive s := by
  refine Trace.induction (motive := fun _ s => motive s) initial ?_ h
  intro _ s a s' holds hstep
  obtain ⟨after, moved, rfl⟩ := Option.map_eq_some_iff.mp hstep
  exact kept s a after holds (Passage.step_of_step? moved)

variable {s : Account} {a : Action} {after : Passage}

/-- A run that has ended adds nothing more to the account. -/
theorem enter_of_ended (ended : s.passage.path.run.outcome.isSome = true)
    (step : Passage.Step s.passage a after) : s.enter a after = { s with passage := after } := by
  have notRun : a ≠ .run := by
    intro isRun
    subst isRun
    cases step with
    | handed alive | lost alive | completed alive | left alive | took alive | failed alive
    | unterminated alive =>
        rw [alive] at ended
        cases ended
  simp [enter, notRun, Gateway.submitted, Option.isNone_eq_false_iff.mpr ended]

theorem enter_submitted (alive : s.passage.path.run.outcome = none) :
    (s.enter a after).submitted = s.submitted ++ after.path.run.submission?.toList := by
  simp [enter, Gateway.submitted, alive]

/-- The frames that a step hands over are those by which the answer grows. -/
theorem answer_step (step : Passage.Step s.passage a after) :
    ∃ frames, (s.enter a after).sent = s.sent ++ frames ∧
      after.path.run.answer = s.passage.path.run.answer ++ frameText frames := by
  have nothing (same : after.path.frames.items = s.passage.path.frames.items)
      (answer : after.path.run.answer = s.passage.path.run.answer) :
      ∃ frames, (s.enter a after).sent = s.sent ++ frames ∧
        after.path.run.answer = s.passage.path.run.answer ++ frameText frames :=
    ⟨[], by simp [enter, same], by simp [answer]⟩
  cases step with
  | @handed f rest alive next stays present room => exact ⟨[f], by simp [enter], by simp⟩
  | @lost f rest alive next gone => exact nothing rfl (s.passage.path.run.endWithout_answer f)
  | completed | left | failed | unterminated => exact nothing rfl rfl
  | took alive empty more stays next fine =>
      refine nothing rfl ?_
      rw [Run.takeChunk_of_fine _ fine]
  | offered | stopped | read | fed | hungUp | cancelled => exact nothing rfl rfl
  | taken | closed => exact ⟨[], by simp [enter], by simp⟩

/-- What a client receives is what the account says it was sent. -/
structure Conveyed (s : Account) : Prop where
  waiting : s.passage.path.frames.receiverGone = false →
    s.sent = s.passage.taken ++ s.passage.path.frames.items
  taken : s.passage.taken <+: s.sent

theorem conveyed_step (h : s.Conveyed) (step : Passage.Step s.passage a after) :
    (s.enter a after).Conveyed := by
  have aside (items : after.path.frames.items = s.passage.path.frames.items)
      (present : after.path.frames.receiverGone = s.passage.path.frames.receiverGone)
      (taken : after.taken = s.passage.taken) : (s.enter a after).Conveyed := by
    have sent : (s.enter a after).sent = s.sent := by simp [enter, items]
    constructor
    · intro stays
      rw [sent]
      simpa [enter, items, taken] using h.waiting (present ▸ stays)
    · rw [sent]
      simpa [enter, taken] using h.taken
  cases step with
  | @handed f rest alive next stays present room =>
      have sent := h.waiting present
      constructor
      · intro _
        simp [enter, sent]
      · simpa [enter] using h.taken.trans (List.prefix_append s.sent [f])
  | @taken f rest present next =>
      have sent := h.waiting present
      constructor
      · intro _
        simp [enter, sent, next]
      · exact ⟨rest, by simp [enter, sent, next]⟩
  | closed =>
      constructor
      · exact fun stays => nomatch stays
      · simpa [enter] using h.taken
  | offered | stopped | read | lost | completed | left | took | failed | unterminated | cancelled
  | fed | hungUp => exact aside rfl rfl rfl

/-- What the client of a path takes is the beginning of what the account of its run has as sent. -/
theorem taken_prefix_sent {setup : Setup} {pump : Option Completion.Pump}
    {prepared : Prepared Unit} {actions : List Action}
    (run : (opened (setup.pathFrom pump prepared)).run? actions = some s) :
    s.passage.taken <+: s.sent := by
  have conveyed : s.Conveyed := by
    refine run_induction ?_ (fun _ _ _ holds step => conveyed_step holds step) run
    exact ⟨fun _ => rfl, List.nil_prefix⟩
  exact conveyed.taken

/-- A run answers from one source. -/
theorem source_step (step : Passage.Step s.passage a after) :
    after.path.run.source = s.passage.path.run.source := by
  cases step with
  | lost => exact Run.endWithout_source _ _
  | took => exact Run.takeChunk_source _ _
  | offered | stopped | read | handed | completed | left | failed | unterminated | taken | cancelled
  | closed | fed | hungUp => rfl

theorem submission?_of_alive {r : Run} (alive : r.outcome = none) : r.submission? = none := by
  simp [Run.submission?, alive]

/-- What holds of the account of every run that answers a prepared request. -/
structure Balanced (prepared : Prepared Unit) (policy : WriteBack) (s : Account) : Prop where
  answers : Passage.Answers prepared.request policy s.passage
  source : s.passage.path.run.source = prepared.source
  answer : s.passage.path.run.answer = frameText s.sent
  submitted : s.submitted = s.passage.path.run.submission?.toList

theorem balanced_step {prepared : Prepared Unit} {policy : WriteBack}
    (h : s.Balanced prepared policy) (step : Passage.Step s.passage a after) :
    (s.enter a after).Balanced prepared policy := by
  have answers := Passage.answers_step h.answers step
  have source := source_step step
  obtain ⟨frames, sent, answer⟩ := answer_step step
  refine ⟨answers, source.trans h.source, ?_, ?_⟩
  · rw [sent, frameText_append, ← h.answer]
    exact answer
  · cases outcome : s.passage.path.run.outcome with
    | none =>
        rw [enter_submitted outcome, h.submitted, submission?_of_alive outcome]
        rfl
    | some o =>
        have ended : s.passage.path.run.outcome.isSome = true := by rw [outcome, Option.isSome_some]
        have same := Passage.run_of_ended ended step
        rw [enter_of_ended ended step, same]
        exact h.submitted

theorem balanced_run {setup : Setup} {pump : Option Completion.Pump} {prepared : Prepared Unit}
    {actions : List Action} (run : (opened (setup.pathFrom pump prepared)).run? actions = some s) :
    s.Balanced prepared setup.policy := by
  refine run_induction ?_ (fun _ _ _ holds step => balanced_step holds step) run
  have answers := setup.path_answers prepared
  obtain ⟨request, origin⟩ := prepared
  cases origin <;>
    exact ⟨⟨answers.request, answers.policy, answers.inOrder, answers.consumed, answers.listens,
      answers.forwards, answers.outcome, answers.whole⟩, rfl, rfl, rfl⟩

end Account

end Relay

end AnswerGateway
