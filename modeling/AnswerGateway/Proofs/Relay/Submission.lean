import AnswerGateway.Proofs.Http.Deeds
import AnswerGateway.Proofs.Relay.Report

/-!
What a run submits to the cache. Which policy is in force changes nothing of what a run does and
when; it only decides, at the end, whether the text that has gone out is submitted. So a laxer
policy submits whatever a stricter one does, and nothing else in its place.
What a run submits is what the gateway then asks its cache to record.
-/

namespace AnswerGateway

namespace Relay

namespace Run

/-- The run that has done the same under another policy. -/
def withPolicy (policy : WriteBack) (r : Run) : Run :=
  { r with
    policy
    outcome := r.outcome.map fun o =>
      { o with
        writeBack := o.source = .provider && !o.answer.isEmpty && policy.allows o.termination } }

variable (policy : WriteBack) (r : Run)

@[simp]
theorem withPolicy_outcome_isSome :
    (r.withPolicy policy).outcome.isSome = r.outcome.isSome := by
  simp [withPolicy]

@[simp]
theorem withPolicy_outcome_isNone :
    (r.withPolicy policy).outcome.isNone = r.outcome.isNone := by
  simp [withPolicy]

theorem finish_withPolicy (termination : Termination) (tokens : UInt32) :
    (r.withPolicy policy).finish termination tokens =
      (r.finish termination tokens).withPolicy policy := rfl

theorem endWithout_withPolicy (f : Frame) :
    (r.withPolicy policy).endWithout f = (r.endWithout f).withPolicy policy := by
  have same : (r.withPolicy policy).source = r.source ∧
      (r.withPolicy policy).following = r.following := ⟨rfl, rfl⟩
  unfold endWithout
  rw [same.1, same.2]
  split <;> rfl

theorem takeChunk_withPolicy (c : Chunk) :
    (r.withPolicy policy).takeChunk c = (r.takeChunk c).withPolicy policy := by
  unfold takeChunk
  split <;> rfl

theorem letGo_withPolicy (chunks : Channel Chunk) (frames : Channel Frame) :
    (r.withPolicy policy).letGo chunks frames =
      ((r.letGo chunks frames).1.withPolicy policy, (r.letGo chunks frames).2) := by
  unfold letGo
  rw [withPolicy_outcome_isSome]
  split <;> rfl

/-- The steps of a run do not depend on its policy. -/
theorem step_withPolicy (cancelled : Bool) (chunks : Channel Chunk) (frames : Channel Frame) :
    (r.withPolicy policy).step cancelled chunks frames =
      (r.step cancelled chunks frames).map fun after => (after.1.withPolicy policy, after.2) := by
  have same : (r.withPolicy policy).pending = r.pending ∧
      (r.withPolicy policy).following = r.following := ⟨rfl, rfl⟩
  unfold step
  rw [withPolicy_outcome_isSome, same.1, same.2]
  split
  · rfl
  · split
    · rename_i f rest _
      rw [endWithout_withPolicy, letGo_withPolicy]
      split
      · rfl
      · split <;> rfl
    · split
      · rw [finish_withPolicy, letGo_withPolicy]
        rfl
      · split
        · rw [finish_withPolicy, letGo_withPolicy]
          rfl
        · split
          · rw [takeChunk_withPolicy, letGo_withPolicy]
            rfl
          · rfl
          · rw [finish_withPolicy, letGo_withPolicy]
            rfl

end Run

namespace Passage

def withPolicy (policy : WriteBack) (p : Passage) : Passage :=
  { p with path := { p.path with run := p.path.run.withPolicy policy } }

/-- Nor do the steps of all who work together. -/
theorem step?_withPolicy (policy : WriteBack) (p : Passage) (a : Action) :
    (p.withPolicy policy).step? a = (p.step? a).map (withPolicy policy) := by
  cases a with
  | pump =>
      simp only [step?, pump?, Path.pumpStep, withPolicy]
      cases p.path.pump with
      | none => rfl
      | some pump =>
          simp only [Option.bind_eq_bind, Option.bind_some]
          cases pump.step p.path.chunks <;> rfl
  | run =>
      have same : awaited { p.path with run := p.path.run.withPolicy policy } = awaited p.path := by
        have alive := Run.withPolicy_outcome_isNone policy p.path.run
        simp only [awaited, alive]
        rfl
      simp only [step?, advance?, Path.runStep, withPolicy, Run.step_withPolicy, same]
      cases p.path.run.step p.path.cancelled p.path.chunks p.path.frames <;> rfl
  | take =>
      simp only [step?, take?, withPolicy]
      split <;> rfl
  | cancel | close => rfl
  | feed c =>
      by_cases open? : (p.path.pump.isNone && !p.path.chunks.senderGone) = true
      · simp only [step?, feed?, withPolicy, open?, if_true]
        cases p.path.chunks.offer c <;> rfl
      · simp only [step?, feed?, withPolicy, open?]
        rfl
  | hangUp =>
      by_cases unpumped : p.path.pump.isNone = true
      · simp only [step?, hangUp?, withPolicy, unpumped, if_true]
        rfl
      · simp only [step?, hangUp?, withPolicy, unpumped]
        rfl

theorem run?_withPolicy (policy : WriteBack) (p : Passage) (actions : List Action) :
    (p.withPolicy policy).run? actions = (p.run? actions).map (withPolicy policy) :=
  Trace.run?_map step? (step?_withPolicy policy) p actions

end Passage

namespace WriteBack

/-- The policies that keep what another one keeps, and the answers that end in one more way. -/
inductive Laxer : WriteBack → WriteBack → Prop where
  | onProviderError : Laxer .never .onProviderError
  | always : Laxer .onProviderError .always

theorem Laxer.allows {policy other : WriteBack} (laxer : policy.Laxer other)
    {termination : Termination} (allowed : policy.allows termination = true) :
    other.allows termination = true := by
  cases laxer <;> cases termination <;> simp_all [WriteBack.allows]

theorem eq_completed_of_never {termination : Termination}
    (allowed : WriteBack.never.allows termination = true) : termination = .completed := by
  cases termination with
  | completed => rfl
  | providerError message => simp [allows] at allowed
  | clientGone => simp [allows] at allowed

end WriteBack

end Relay

open Relay

theorem Setup.pathFrom_withPolicy (setup : Setup) (pump : Option Completion.Pump)
    (prepared : Prepared Unit) (policy : WriteBack) :
    ({ path := Setup.pathFrom { setup with policy } pump prepared } : Passage) =
      Passage.withPolicy policy { path := setup.pathFrom pump prepared } := by
  obtain ⟨request, origin⟩ := prepared
  cases origin <;> rfl

namespace Relay.Account

variable {prepared : Prepared Unit} {policy : WriteBack} {s : Account} {o : Outcome}

/-- What is promised of the records that a run submits. -/
structure Submits (prepared : Prepared Unit) (policy : WriteBack) (s : Account) : Prop where
  before : s.passage.path.run.outcome = none → s.submitted = []
  source : ∀ o, s.passage.path.run.outcome = some o → o.source = prepared.source
  /-- The text that has gone out is submitted if it is a provider's, there is any and the policy
  allows it. -/
  ended : ∀ o, s.passage.path.run.outcome = some o →
    s.submitted =
      if prepared.source = .provider ∧ String.join (piecesOf s.sent) ≠ "" ∧
          policy.allows o.termination = true then
        [{ prompt := prepared.request.prompt, response := String.join (piecesOf s.sent)
           model := prepared.request.model, tokenUsage := o.tokenUsage }]
      else []
  writeBack : ∀ o, s.passage.path.run.outcome = some o → (o.writeBack = true ↔ s.submitted ≠ [])
  whole : policy = .never → s.submitted ≠ [] →
    ∃ c ∈ s.passage.consumed, c.done = true ∧ c.error = none

theorem Balanced.text (h : s.Balanced prepared policy) :
    s.passage.path.run.answer = String.join (piecesOf s.sent) := by
  rw [h.answer, frameText_eq_join]

/-- What has been submitted when a run has ended, as the outcome says it. -/
theorem Balanced.submitted_of_ended (h : s.Balanced prepared policy)
    (ended : s.passage.path.run.outcome = some o) :
    s.submitted =
      if o.writeBack then
        [{ prompt := prepared.request.prompt, response := String.join (piecesOf s.sent)
           model := prepared.request.model, tokenUsage := o.tokenUsage }]
      else [] := by
  obtain ⟨-, answer, -⟩ := h.answers.outcome o ended
  rw [h.submitted, Run.submission?, ended, h.answers.request, ← h.text, ← answer]
  cases kept : o.writeBack with
  | true => simp [kept]
  | false => simp [kept]

theorem Balanced.writeBack_iff (h : s.Balanced prepared policy)
    (ended : s.passage.path.run.outcome = some o) :
    o.writeBack = true ↔
      prepared.source = .provider ∧ String.join (piecesOf s.sent) ≠ "" ∧
        policy.allows o.termination = true := by
  obtain ⟨-, -, kept⟩ := h.answers.outcome o ended
  rw [kept, Run.submits, h.source, h.answers.policy, h.text]
  simp [and_assoc]

theorem Balanced.submits (h : s.Balanced prepared policy) : s.Submits prepared policy := by
  constructor
  case before =>
    intro alive
    rw [h.submitted, submission?_of_alive alive]
    rfl
  case source =>
    intro o ended
    obtain ⟨source, -⟩ := h.answers.outcome o ended
    exact source.trans h.source
  case ended =>
    intro o ended
    rw [h.submitted_of_ended ended]
    simp only [h.writeBack_iff ended]
  case writeBack =>
    intro o ended
    rw [h.submitted_of_ended ended]
    cases o.writeBack <;> simp
  case whole =>
    intro never submitted
    have some? : s.passage.path.run.submission?.isSome = true := by
      rw [h.submitted] at submitted
      cases hr : s.passage.path.run.submission? <;> simp_all
    obtain ⟨r, hr⟩ := Option.isSome_iff_exists.mp some?
    obtain ⟨o, ended, -, -, -, -, allowed, whole⟩ := h.answers.of_submission hr
    obtain ⟨⟨fine, before, last, consumed, done, -⟩, -⟩ :=
      whole (WriteBack.eq_completed_of_never (never ▸ allowed))
    have member : last ∈ s.passage.consumed := by
      rw [consumed]
      exact List.mem_append_right _ List.mem_cons_self
    exact ⟨last, member, done, fine last member⟩

/-- What is submitted under a policy is submitted under a laxer one too. -/
theorem Balanced.submitted_laxer {other : WriteBack} {t : Account}
    (h : s.Balanced prepared policy) (ht : t.Balanced prepared other)
    (same : t.passage = s.passage.withPolicy other) (laxer : policy.Laxer other)
    (submitted : s.submitted ≠ []) : t.submitted = s.submitted := by
  cases outcome : s.passage.path.run.outcome with
  | none => exact absurd (h.submits.before outcome) submitted
  | some o =>
      have kept := (h.submits.writeBack o outcome).mpr submitted
      obtain ⟨provider, nonempty, allowed⟩ := (h.writeBack_iff outcome).mp kept
      have text : String.join (piecesOf t.sent) = String.join (piecesOf s.sent) := by
        rw [← h.text, ← ht.text, same]
        rfl
      have ended : ∃ o', t.passage.path.run.outcome = some o' ∧ o'.termination = o.termination ∧
          o'.tokenUsage = o.tokenUsage := by
        rw [same]
        exact ⟨_, congrArg (Option.map _) outcome, rfl, rfl⟩
      obtain ⟨o', outcome', termination, tokens⟩ := ended
      have kept' : o'.writeBack = true := by
        rw [ht.writeBack_iff outcome', text, termination]
        exact ⟨provider, nonempty, laxer.allows allowed⟩
      rw [h.submitted_of_ended outcome, ht.submitted_of_ended outcome', kept, kept', text, tokens]

/-- A run submits one record or none, and says so in its outcome. Under a laxer policy the same run
submits the same record if it submits one under this policy. -/
theorem run_submits {setup : Setup} {pump : Option Completion.Pump}
    {actions : List Passage.Action}
    (run : (opened (setup.pathFrom pump prepared)).run? actions = some s) :
    s.Submits prepared setup.policy ∧
      ∀ policy, setup.policy.Laxer policy →
        ∃ t, (opened (Setup.pathFrom { setup with policy } pump prepared)).run? actions = some t ∧
          t.passage.consumed = s.passage.consumed ∧ t.passage.taken = s.passage.taken ∧
          (s.submitted ≠ [] → t.submitted = s.submitted) := by
  have balanced := balanced_run run
  refine ⟨balanced.submits, ?_⟩
  intro policy laxer
  have passage : (opened (setup.pathFrom pump prepared)).passage.run? actions = some s.passage := by
    rw [run?_passage, run]
    rfl
  have other : (opened (Setup.pathFrom { setup with policy } pump prepared)).passage.run? actions =
      some (s.passage.withPolicy policy) := by
    have start := setup.pathFrom_withPolicy pump prepared policy
    simp only [opened] at passage ⊢
    rw [start, Passage.run?_withPolicy, passage]
    rfl
  rw [run?_passage] at other
  obtain ⟨t, ht, same⟩ := Option.map_eq_some_iff.mp other
  refine ⟨t, ht, ?_, ?_, balanced.submitted_laxer (balanced_run ht) same laxer⟩
  · rw [same]
    rfl
  · rw [same]
    rfl

/-- An answer whose end the client has not been told is kept under each of the policies. -/
theorem run_submits_unmarked :
    ∃ s t, (opened (Setup.pathFrom ⟨.never, 20, 1, 1⟩ none
        ⟨{ model := "model", prompt := "question" }, .stream ()⟩)).run?
          [.feed { content := "answer", done := true, tokenUsage := 5 }, .run, .run, .close, .run] =
        some s ∧
      (opened (Setup.pathFrom ⟨.onProviderError, 20, 1, 1⟩ none
        ⟨{ model := "model", prompt := "question" }, .stream ()⟩)).run?
          [.feed { content := "answer", done := true, tokenUsage := 5 }, .run, .run, .close, .run] =
        some t ∧
      s.submitted = [⟨"question", "answer", "model", 5⟩] ∧ t.submitted = s.submitted := by
  have happens : ((opened (Setup.pathFrom ⟨.never, 20, 1, 1⟩ none
      ⟨{ model := "model", prompt := "question" }, .stream ()⟩)).run?
        [.feed { content := "answer", done := true, tokenUsage := 5 }, .run, .run, .close,
          .run]).map submitted = some [⟨"question", "answer", "model", 5⟩] := by
    decide +kernel
  obtain ⟨s, run, submitted⟩ := Option.map_eq_some_iff.mp happens
  obtain ⟨-, laxer⟩ := run_submits run
  obtain ⟨t, ht, -, -, same⟩ := laxer .onProviderError .onProviderError
  exact ⟨s, t, run, ht, submitted, same (by rw [submitted]; exact List.cons_ne_nil _ _)⟩

/-- What a run has submitted is what the gateway, when it is done with the answer, asks its cache to
record; it asks nothing else of it then. -/
theorem run_records {σ : Type} {setup : Setup} {pump : Option Completion.Pump}
    {actions : List Passage.Action} (b : Http.Backend (StateM σ) Completion.Body)
    (run : (opened (setup.pathFrom pump prepared)).run? actions = some s) (state : σ)
    (log : List Http.Deed) :
    ∃ state', (Http.settleRun b.recorded s.passage.path.run).run (state, log) =
      ((), state', log ++ s.submitted.map .record) := by
  rw [(balanced_run run).submitted]
  exact Http.run_settleRun b s.passage.path.run state log

end Relay.Account

end AnswerGateway
