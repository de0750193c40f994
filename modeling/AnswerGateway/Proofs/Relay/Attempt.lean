import AnswerGateway.Proofs.Relay.Account

/-!
One request from its preparation to its outcome, beside a cache that answers when and how it likes,
or not at all. Whoever deals with the request sees what it comes to, the frames that are sent and
the outcome. As long as the cache finds nothing, none of this depends on it: a lookup that fails and
one that is a miss lead to the same question to the provider, and nobody waits for a record to be
kept.
-/

namespace AnswerGateway.Relay

open Cache

namespace Attempt

/-- How far a request has come. -/
inductive Stage where
  | preparing (asking : Asking (Except Fault (Prepared Unit)))
  | refused (f : Fault)
  | answering (prepared : Prepared Unit) (account : Account)

inductive Action where
  | lookup (answer : Except Fault LookupResult)
  /-- The cache says whether it accepts a record. -/
  | recorded (call : Nat) (accepted : Bool)
  | openStream (request : CompletionRequest) (answer : Except Fault Unit)
  | relay (action : Passage.Action)

/-- Whether the cache has no part in an action. -/
def Action.isOutside : Action → Bool
  | .openStream .. | .relay _ => true
  | _ => false

/-- The cache finds nothing, whether it fails or says so. -/
def Action.Useless : Action → Prop
  | .lookup answer => ∀ found, answer = .ok found → found.hit = false
  | _ => True

/-- The same outside another cache, which answers lookups so and never says whether it accepts a
record. -/
def Action.beside? (answer : Except Fault LookupResult) : Action → Option Action
  | .lookup _ => some (.lookup answer)
  | .recorded .. => none
  | outside => some outside

end Attempt

structure Attempt where
  stage : Attempt.Stage
  /-- The records that the cache was asked to keep, as long as it has not answered. -/
  recording : List Record := []

namespace Attempt

namespace Stage

variable (setup : Setup) (pump : Option Completion.Pump)

def path (prepared : Prepared Unit) : Path :=
  match prepared.origin with
  | .kept _ => setup.path prepared
  | .stream () => setup.pathFrom pump prepared

def ofAsking : Asking (Except Fault (Prepared Unit)) → Stage
  | .done (.ok prepared) => .answering prepared (.opened (path setup pump prepared))
  | .done (.error f) => .refused f
  | asking => .preparing asking

/-- The stage after an action; none if the action cannot happen now. -/
def step? : Stage → Action → Option Stage
  | .preparing (.lookup _ next), .lookup answer => some (ofAsking setup pump (next answer))
  | .preparing (.openStream question next), .openStream request answer =>
    if request = question then some (ofAsking setup pump (next answer)) else none
  | .answering prepared account, .relay action =>
    (account.step? action).map (.answering prepared)
  | _, _ => none

def submitted : Stage → List Record
  | .answering _ account => account.submitted
  | _ => []

/-- What a preparation has come to. -/
def prepared? : Stage → Option (Except Fault (Prepared Unit))
  | .preparing _ => none
  | .refused f => some (.error f)
  | .answering prepared _ => some (.ok prepared)

def sent : Stage → List Frame
  | .answering _ account => account.sent
  | _ => []

/-- The frames that the client has taken. -/
def taken : Stage → List Frame
  | .answering _ account => account.passage.taken
  | _ => []

def outcome? : Stage → Option Outcome
  | .answering _ account => account.passage.path.run.outcome
  | _ => none

end Stage

def opened (request : RelayRequest) : Attempt := { stage := .preparing (preparing request) }

variable (setup : Setup) (pump : Option Completion.Pump)

/-- The attempt after an action. A record that a run submits is a call to the cache, which goes on
beside it. -/
def step? (t : Attempt) (a : Action) : Option Attempt :=
  match a with
  | .recorded call _ =>
    t.recording[call]?.map fun _ => { t with recording := t.recording.eraseIdx call }
  | a => (t.stage.step? setup pump a).map fun stage =>
    { stage, recording := t.recording ++ stage.submitted.drop t.stage.submitted.length }

def run? (t : Attempt) (actions : List Action) : Option Attempt :=
  Trace.run? (step? setup pump) t actions

/-- Two attempts in which there is no difference to be seen. -/
structure Alike (t t' : Attempt) : Prop where
  prepared : t.stage.prepared? = t'.stage.prepared?
  sent : t.stage.sent = t'.stage.sent
  taken : t.stage.taken = t'.stage.taken
  outcome : t.stage.outcome? = t'.stage.outcome?

variable {setup pump} {request : RelayRequest} {stage stage' : Stage} {a : Action}

/-- After a lookup that finds nothing, the provider is asked. -/
theorem lookup_useless {answer : Except Fault LookupResult}
    (useless : (Action.lookup answer).Useless) :
    Stage.step? setup pump (.preparing (preparing request)) (.lookup answer) =
      some (.preparing (prepareStream Asking.services request)) := by
  cases answer with
  | error f => rfl
  | ok found =>
      have miss : found.hit = false := useless found rfl
      simp only [preparing, prepare, Asking.services, Bind.bind, Asking.bind, Stage.step?, miss]
      rfl

/-- Nothing but a lookup comes before that. -/
theorem preparing_step (step : Stage.step? setup pump (.preparing (preparing request)) a =
    some stage) : ∃ answer, a = .lookup answer := by
  cases a with
  | lookup answer => exact ⟨answer, rfl⟩
  | _ => cases step

/-- What comes of asking the provider is up to the provider. -/
theorem prepareStream_eq (request : RelayRequest) :
    ∃ next, prepareStream Asking.services request = .openStream request.toCompletion next ∧
      next (.ok ()) = .done (.ok ⟨request, .stream ()⟩) ∧
      ∀ f, next (.error f) = .done (.error f) :=
  ⟨_, rfl, rfl, fun _ => rfl⟩

/-- A stage in which the cache has had its say. -/
inductive Stage.Past (request : RelayRequest) : Stage → Prop where
  | opening : Past request (.preparing (prepareStream Asking.services request))
  | refused (f : Fault) : Past request (.refused f)
  | answering (prepared : Prepared Unit) (account : Account) :
      Past request (.answering prepared account)

theorem Stage.past_step (past : stage.Past request)
    (step : stage.step? setup pump a = some stage') :
    a.isOutside = true ∧ stage'.Past request := by
  cases past with
  | opening =>
      obtain ⟨next, asks, opened, refused⟩ := prepareStream_eq request
      rw [asks] at step
      cases a with
      | openStream question answer =>
          refine ⟨rfl, ?_⟩
          simp only [step?, Option.ite_none_right_eq_some, Option.some.injEq] at step
          obtain ⟨-, rfl⟩ := step
          cases answer with
          | ok =>
              rw [opened]
              exact .answering _ _
          | error f =>
              rw [refused]
              exact .refused f
      | _ => cases step
  | refused f => cases a <;> cases step
  | answering prepared account =>
      cases a with
      | relay action =>
          obtain ⟨after, -, rfl⟩ := Option.map_eq_some_iff.mp step
          exact ⟨rfl, .answering prepared after⟩
      | _ => cases step

/-- A cache that answers for a record changes nothing but what it is still asked. -/
theorem stage_recorded {t t' : Attempt} {call : Nat} {accepted : Bool}
    (step : t.step? setup pump (.recorded call accepted) = some t') : t'.stage = t.stage := by
  obtain ⟨r, -, rfl⟩ := Option.map_eq_some_iff.mp step
  rfl

theorem stage_step {t t' : Attempt} (step : t.step? setup pump a = some t') :
    (∃ call accepted, a = .recorded call accepted ∧ t'.stage = t.stage) ∨
      t.stage.step? setup pump a = some t'.stage := by
  cases a with
  | recorded call accepted => exact .inl ⟨call, accepted, rfl, stage_recorded step⟩
  | lookup | openStream | relay =>
      obtain ⟨stage, moved, rfl⟩ := Option.map_eq_some_iff.mp step
      exact .inr moved

/-- An attempt waits for its lookup, or it stands where one without a cache stands after the same
actions. -/
def Bare (setup : Setup) (pump : Option Completion.Pump) (request : RelayRequest)
    (actions : List Action) (t : Attempt) : Prop :=
  (t.stage = .preparing (preparing request) ∧ actions.filter Action.isOutside = []) ∨
    t.stage.Past request ∧
      Trace.run? (Stage.step? setup pump) (.preparing (prepareStream Asking.services request))
        (actions.filter Action.isOutside) = some t.stage

variable {t t' : Attempt} {actions actions' : List Action}

theorem bare_step (h : Bare setup pump request actions t) (useless : a.Useless)
    (step : t.step? setup pump a = some t') : Bare setup pump request (actions ++ [a]) t' := by
  rcases stage_step step with ⟨call, accepted, rfl, same⟩ | moved
  · have aside : [Action.recorded call accepted].filter Action.isOutside = [] := rfl
    rw [Bare, same, List.filter_append, aside, List.append_nil]
    exact h
  · rcases h with ⟨start, none⟩ | ⟨past, run⟩
    · rw [start] at moved
      obtain ⟨answer, rfl⟩ := preparing_step moved
      rw [lookup_useless useless] at moved
      right
      rw [← Option.some.inj moved, List.filter_append, none]
      exact ⟨.opening, rfl⟩
    · obtain ⟨outside, past'⟩ := Stage.past_step past moved
      right
      refine ⟨past', ?_⟩
      rw [List.filter_append, Trace.run?_append, run]
      simp [outside, Trace.run?, moved]

theorem bare_run (run : (opened request).run? setup pump actions = some t)
    (useless : ∀ a ∈ actions, a.Useless) : Bare setup pump request actions t := by
  refine Trace.induction (motive := fun actions t => (∀ a ∈ actions, a.Useless) →
    Bare setup pump request actions t) ?_ ?_ run useless
  · intro _
    exact .inl ⟨rfl, rfl⟩
  · intro actions t a t' holds step useless
    have before : ∀ a ∈ actions, a.Useless := fun a member =>
      useless a (List.mem_append_left _ member)
    exact bare_step (holds before) (useless a (List.mem_append_right _ List.mem_cons_self)) step

theorem Alike.of_stage (same : t.stage = t'.stage) : t.Alike t' :=
  ⟨by rw [same], by rw [same], by rw [same], by rw [same]⟩

/-- While its lookup is not answered, an attempt shows no more than one that asks the provider. -/
theorem Alike.of_asking (start : t.stage = .preparing (preparing request))
    (asks : t'.stage = .preparing (prepareStream Asking.services request)) : t.Alike t' := by
  refine ⟨?_, ?_, ?_, ?_⟩ <;> rw [start, asks] <;> rfl

theorem Alike.symm (h : t.Alike t') : t'.Alike t :=
  ⟨h.prepared.symm, h.sent.symm, h.taken.symm, h.outcome.symm⟩

theorem Bare.alike (h : Bare setup pump request actions t)
    (h' : Bare setup pump request actions' t')
    (same : actions.filter Action.isOutside = actions'.filter Action.isOutside) : t.Alike t' := by
  rcases h with ⟨start, none⟩ | ⟨-, run⟩
  · rcases h' with ⟨start', -⟩ | ⟨-, run'⟩
    · exact .of_stage (start.trans start'.symm)
    · rw [← same, none] at run'
      exact .of_asking start (Option.some.inj run').symm
  · rcases h' with ⟨start', none'⟩ | ⟨-, run'⟩
    · rw [same, none'] at run
      exact (Alike.of_asking start' (Option.some.inj run).symm).symm
    · rw [← same, run] at run'
      exact .of_stage (Option.some.inj run')

theorem Stage.step?_recorded (stage : Stage) (call : Nat) (accepted : Bool) :
    stage.step? setup pump (.recorded call accepted) = none := by
  cases stage with
  | preparing asking => cases asking <;> rfl
  | refused | answering => rfl

/-- What a stage allows can happen, whatever the cache is still asked. -/
theorem step_of_stage (moved : t.stage.step? setup pump a = some stage) :
    ∃ next, t.step? setup pump a = some next ∧ next.stage = stage := by
  cases a with
  | recorded call accepted =>
      rw [Stage.step?_recorded] at moved
      cases moved
  | lookup | openStream | relay => exact ⟨_, congrArg (Option.map _) moved, rfl⟩

theorem beside?_outside {answer : Except Fault LookupResult} (outside : a.isOutside = true) :
    a.beside? answer = some a := by
  cases a with
  | openStream | relay => rfl
  | lookup | recorded => cases outside

/-- One step beside another cache: as long as neither finds anything, the stages stay the same. -/
theorem beside_step {next : Attempt} {answer : Except Fault LookupResult}
    (other : (Action.lookup answer).Useless) (useless : a.Useless)
    (bare : Bare setup pump request actions t) (same : t'.stage = t.stage)
    (step : t.step? setup pump a = some next) :
    ∃ next', Trace.run? (step? setup pump) t' (a.beside? answer).toList = some next' ∧
      next'.stage = next.stage := by
  rcases stage_step step with ⟨call, accepted, rfl, still⟩ | moved
  · exact ⟨t', rfl, same.trans still.symm⟩
  · rcases bare with ⟨start, -⟩ | ⟨past, -⟩
    · rw [start] at moved same
      obtain ⟨answer', rfl⟩ := preparing_step moved
      rw [lookup_useless useless] at moved
      have asked : t'.stage.step? setup pump (.lookup answer) = some next.stage := by
        rw [same, lookup_useless other]
        exact moved
      obtain ⟨next', step', stage⟩ := step_of_stage asked
      exact ⟨next', (Trace.run?_cons _).mpr ⟨next', step', rfl⟩, stage⟩
    · obtain ⟨outside, -⟩ := Stage.past_step past moved
      rw [← same] at moved
      obtain ⟨next', step', stage⟩ := step_of_stage moved
      rw [beside?_outside outside]
      exact ⟨next', (Trace.run?_cons _).mpr ⟨next', step', rfl⟩, stage⟩

/-- What happens beside a useless cache can happen beside any other, even if that never says whether
it accepts a record. -/
theorem exists_beside {answer : Except Fault LookupResult} (other : (Action.lookup answer).Useless)
    (run : (opened request).run? setup pump actions = some t)
    (useless : ∀ a ∈ actions, a.Useless) :
    ∃ t', (opened request).run? setup pump (actions.filterMap (Action.beside? answer)) = some t' ∧
      t'.stage = t.stage := by
  refine Trace.induction (motive := fun actions t => (∀ a ∈ actions, a.Useless) →
    Bare setup pump request actions t ∧ ∃ t', (opened request).run? setup pump
      (actions.filterMap (Action.beside? answer)) = some t' ∧ t'.stage = t.stage) ?_ ?_ run useless
    |>.2
  · intro _
    exact ⟨.inl ⟨rfl, rfl⟩, opened request, rfl, rfl⟩
  · intro actions t a next holds step useless
    have before : ∀ a ∈ actions, a.Useless := fun a member =>
      useless a (List.mem_append_left _ member)
    have now : a.Useless := useless a (List.mem_append_right _ List.mem_cons_self)
    obtain ⟨bare, t', run', same⟩ := holds before
    obtain ⟨next', step', stage⟩ := beside_step other now bare same step
    refine ⟨bare_step bare now step, next', ?_, stage⟩
    have one : [a].filterMap (Action.beside? answer) = (a.beside? answer).toList := by
      cases h : a.beside? answer <;> simp [h]
    rw [run?] at run' ⊢
    rw [List.filterMap_append, one, Trace.run?_append, run']
    exact step'

/-- A call for a record can return at any time, with either answer, and it is not noticed. -/
theorem exists_recorded {call : Nat} (accepted : Bool) (waits : call < t.recording.length) :
    ∃ next, t.step? setup pump (.recorded call accepted) = some next ∧ t.Alike next := by
  have stands := List.getElem?_eq_getElem waits
  refine ⟨_, congrArg (Option.map _) stands, ?_⟩
  exact .of_stage rfl

/-- A cache that finds nothing is not noticed. Beside every other such cache, whatever either says
of the records and when, the same actions of provider, run and client come to the same; and they can
happen there too, even if that cache never says anything of a record. -/
theorem run_unnoticed (run : (opened request).run? setup pump actions = some t)
    (useless : ∀ a ∈ actions, a.Useless) :
    (∀ actions' t', (opened request).run? setup pump actions' = some t' →
      (∀ a ∈ actions', a.Useless) →
      actions'.filter Action.isOutside = actions.filter Action.isOutside → t.Alike t') ∧
    (∀ answer, (Action.lookup answer).Useless →
      ∃ t', (opened request).run? setup pump (actions.filterMap (Action.beside? answer)) =
        some t' ∧ t.Alike t') ∧
    ∀ call accepted, call < t.recording.length →
      ∃ next, t.step? setup pump (.recorded call accepted) = some next ∧ t.Alike next := by
  refine ⟨?_, ?_, ?_⟩
  · intro actions' t' run' useless' same
    exact (bare_run run useless).alike (bare_run run' useless') same.symm
  · intro answer other
    obtain ⟨t', run', same⟩ := exists_beside other run useless
    exact ⟨t', run', .of_stage same.symm⟩
  · intro call accepted waits
    exact exists_recorded accepted waits

/-- What happens to a short answer outside the cache. -/
def smallOutside : List Action :=
  [.openStream { model := "model", prompt := "question" } (.ok ()),
    .relay (.feed { content := "answer", done := true, tokenUsage := 5 }), .relay .run, .relay .run,
    .relay .take, .relay .close, .relay .run]

/-- It is answered in the same way beside a cache that is down and says nothing of the record, and
beside one that finds nothing and drops it. -/
theorem run_unnoticed_small :
    ∃ t t', (opened { model := "model", prompt := "question" }).run? ⟨.never, 20, 1, 1⟩ none
        (.lookup (.error (.cache "down")) :: smallOutside) = some t ∧
      (opened { model := "model", prompt := "question" }).run? ⟨.never, 20, 1, 1⟩ none
        (.lookup (.ok ⟨false, "stale"⟩) :: smallOutside ++ [.recorded 0 false]) = some t' ∧
      (t.stage.outcome?.map Outcome.writeBack, t.recording.length) = (some true, 1) ∧
      t'.recording.length = 0 ∧ t.Alike t' := by
  have happens : ((opened { model := "model", prompt := "question" }).run? ⟨.never, 20, 1, 1⟩ none
      (.lookup (.error (.cache "down")) :: smallOutside)).map
        (fun t => (t.stage.outcome?.map Outcome.writeBack, t.recording.length)) =
      some (some true, 1) := by
    decide +kernel
  have happens' : ((opened { model := "model", prompt := "question" }).run? ⟨.never, 20, 1, 1⟩ none
      (.lookup (.ok ⟨false, "stale"⟩) :: smallOutside ++ [.recorded 0 false])).map
        (fun t => t.recording.length) = some 0 := by
    decide +kernel
  obtain ⟨t, run, written⟩ := Option.map_eq_some_iff.mp happens
  obtain ⟨t', run', dropped⟩ := Option.map_eq_some_iff.mp happens'
  have useless : ∀ a ∈ Action.lookup (.error (.cache "down")) :: smallOutside, a.Useless := by
    simp [smallOutside, Action.Useless]
  have useless' : ∀ a ∈ Action.lookup (.ok ⟨false, "stale"⟩) :: smallOutside ++
      [.recorded 0 false], a.Useless := by
    simp [smallOutside, Action.Useless]
  exact ⟨t, t', run, run', written, dropped, (run_unnoticed run useless).1 _ t' run' useless' rfl⟩

end Attempt

end AnswerGateway.Relay
