import AnswerGateway.Proofs.Cache.Accounting
import AnswerGateway.Proofs.Cache.Effort

/-!
A shutdown comes to its end. Once one has begun nothing more is accepted, the workers write what is
left and go, none of them waits for ever, and only then do calls for a shutdown return. By then the
store has been asked once for each record that could be embedded, as its own log would show.
-/

namespace AnswerGateway.Cache

def Worker.noticed : Worker → Bool
  | .draining | .exited => true
  | .embedding _ d | .storing _ _ d => d
  | _ => false

namespace Engine

variable {e : Engine} {index : Nat} {w w' : Worker} {event : Event} {queue : List Record}

theorem Advance.noticed (h : e.Advance w event w' queue)
    (before : w.noticed = true → e.stopping = true) :
    w'.noticed = true → e.stopping = true := by
  cases h with
  | leave _ stopping | noticeWaiting stopping | noticeReceiving stopping => exact fun _ => stopping
  | drain | drained => exact fun _ => before rfl
  | embedded => exact before
  | notEmbedded _ d | stored _ _ d =>
      cases d with
      | true => exact fun _ => before rfl
      | false => exact fun h => nomatch h
  | acquire | receive => exact fun h => nomatch h

theorem Advance.exited (h : e.Advance w event w' queue) (exits : w' = .exited) : queue = [] := by
  cases h with
  | leave | drained => rfl
  | notEmbedded _ d | stored _ _ d => cases d <;> cases exits
  | _ => cases exits

/-- Workers notice a shutdown only when there is one, and go only when nothing is left. -/
structure Orderly (e : Engine) : Prop where
  noticed : ∀ (index : Nat) (w : Worker), e.workers[index]? = some w → w.noticed = true →
    e.stopping = true
  exited : ∀ index : Nat, e.workers[index]? = some .exited → e.queue = []

theorem Orderly.advance (h : e.Orderly) (stands : e.workers[index]? = some w)
    (step : e.Advance w event w' queue) (fewer : e.queue = [] → queue = []) :
    Orderly { e.withWorker index w' with queue } := by
  refine ⟨?_, ?_⟩
  · intro other wOther hOther
    rcases getElem?_set_cases hOther with ⟨rfl, rfl⟩ | ⟨-, before⟩
    · exact step.noticed (h.noticed index w stands)
    · exact h.noticed other wOther before
  · intro other hOther
    rcases getElem?_set_cases hOther with ⟨rfl, exits⟩ | ⟨-, before⟩
    · exact step.exited exits
    · exact fewer (h.exited other before)

theorem exists_receiving (held : e.isHeld = true) :
    ∃ holder : Nat, e.workers[holder]? = some .receiving := by
  have member : Worker.receiving ∈ e.workers := by simpa [isHeld] using held
  exact List.getElem?_of_mem member

theorem exited_of_stopped (h : e.stopped = true) (stands : e.workers[index]? = some w) :
    w = .exited := by
  simp only [stopped, Bool.and_eq_true, List.all_eq_true, decide_eq_true_eq] at h
  exact h.2 w (List.mem_of_getElem? stands)

end Engine

namespace Site

variable {σ : Type} {calls : StoreCalls σ}

theorem orderly_step {s s' : Site σ} {a : Action} (h : s.engine.Orderly)
    (step : Step calls s a s') : s'.engine.Orderly := by
  cases step with
  | accepted running =>
      refine ⟨h.noticed, fun index exits => ?_⟩
      -- No worker has gone while records are still accepted.
      have stopping := h.noticed index .exited exits rfl
      rw [running] at stopping
      cases stopping
  | turned stands advance => exact h.advance stands advance id
  | took stands advance _ next =>
      refine h.advance stands advance fun empty => ?_
      rw [next] at empty
      cases empty
  | embedded stands => exact h.advance stands (.embedded _ _ _) id
  | @notEmbedded _ _ _ f stands => exact h.advance stands (.notEmbedded _ _ f) id
  | wrote stands => exact h.advance stands (.stored _ _ _ (.ok ())) id
  | lookedUp => simpa using h
  | shutdown => exact ⟨fun _ _ _ _ => rfl, h.exited⟩
  | dropped | shutdownReturned => exact h

/-- Whether a worker can take a step: either by itself or with whatever its call answers. -/
def CanAct (calls : StoreCalls σ) (s : Site σ) (index : Nat) : Prop :=
  (∃ event, (s.step? calls (.move index event)).isSome) ∨
    (∀ answer, (s.step? calls (.embed index answer)).isSome) ∨
    ∀ id time, (s.step? calls (.upsert index id time)).isSome

theorem canAct_move {s : Site σ} {index : Nat} {w w' : Worker} {event : Engine.Event}
    {queue : List Record} (stands : s.engine.workers[index]? = some w)
    (advance : s.engine.Advance w event w' queue) (inside : event.isInside = true) :
    s.CanAct calls index := by
  have hwork := (Engine.work_eq_some_iff s.engine _ index event).mpr
    ⟨w, w', queue, stands, advance, rfl⟩
  exact .inl ⟨event, by simp [step?, move?, inside, hwork]⟩

theorem canAct_embed {s : Site σ} {index : Nat} {r : Record} {d : Bool}
    (stands : s.engine.workers[index]? = some (.embedding r d)) : s.CanAct calls index := by
  refine .inr (.inl fun answer => ?_)
  cases answer with
  | ok v =>
      have hwork := (Engine.work_eq_some_iff s.engine _ index _).mpr
        ⟨_, _, _, stands, .embedded r d v, rfl⟩
      simp [step?, embed?, stands, hwork, Worker.record?]
  | error f =>
      have hwork := (Engine.work_eq_some_iff s.engine _ index _).mpr
        ⟨_, _, _, stands, .notEmbedded r d f, rfl⟩
      simp [step?, embed?, stands, hwork, Worker.record?]

theorem canAct_upsert {s : Site σ} {index : Nat} {r : Record} {v : Vector} {d : Bool}
    (stands : s.engine.workers[index]? = some (.storing r v d)) : s.CanAct calls index := by
  refine .inr (.inr fun id time => ?_)
  have hwork := (Engine.work_eq_some_iff s.engine _ index _).mpr
    ⟨_, _, _, stands, .stored r v d (s.upserted calls r v id time).1, rfl⟩
  simp only [upserted] at hwork
  simp [step?, upsert?, stands, hwork]

/-- After a shutdown has begun, a worker that has not gone can act, unless it waits for another to
let go of the queue; and that one can act. -/
theorem awake (calls : StoreCalls σ) {s : Site σ} {index : Nat} {w : Worker}
    (stopping : s.engine.stopping = true)
    (stands : s.engine.workers[index]? = some w) (alive : w ≠ .exited) :
    s.CanAct calls index ∨
      w = .draining ∧ ∃ holder : Nat, s.engine.workers[holder]? = some .receiving ∧
        s.CanAct calls holder := by
  cases w with
  | waiting => exact .inl (canAct_move stands (.noticeWaiting stopping) rfl)
  | receiving => exact .inl (canAct_move stands (.noticeReceiving stopping) rfl)
  | draining =>
      cases held : s.engine.isHeld with
      | true =>
          obtain ⟨holder, hholder⟩ := Engine.exists_receiving held
          exact .inr ⟨rfl, holder, hholder,
            canAct_move hholder (.noticeReceiving stopping) rfl⟩
      | false =>
          cases next : s.engine.queue with
          | nil => exact .inl (canAct_move stands (.drained held next) rfl)
          | cons r rest => exact .inl (canAct_move stands (.drain held next) rfl)
  | embedding r d => exact .inl (canAct_embed stands)
  | storing r v d => exact .inl (canAct_upsert stands)
  | exited => exact absurd rfl alive

theorem CanAct.step {s : Site σ} {index : Nat} (h : s.CanAct calls index) :
    ∃ a s', a.isWork = true ∧ s.step? calls a = some s' := by
  rcases h with ⟨event, happens⟩ | happens | happens
  · obtain ⟨s', hs'⟩ := Option.isSome_iff_exists.mp happens
    exact ⟨_, s', rfl, hs'⟩
  · obtain ⟨s', hs'⟩ := Option.isSome_iff_exists.mp (happens (.ok []))
    exact ⟨_, s', rfl, hs'⟩
  · obtain ⟨s', hs'⟩ := Option.isSome_iff_exists.mp (happens "" .null)
    exact ⟨_, s', rfl, hs'⟩

/-- If no worker can act after a shutdown has begun, all have gone. -/
theorem stopped_of_idle {s : Site σ} (stopping : s.engine.stopping = true)
    (idle : ∀ index, ¬s.CanAct calls index) : s.engine.stopped = true := by
  simp only [Engine.stopped, stopping, Bool.true_and, List.all_eq_true, decide_eq_true_eq]
  intro w member
  obtain ⟨index, stands⟩ := List.getElem?_of_mem member
  by_cases alive : w = .exited
  · exact alive
  · rcases awake calls stopping stands alive with acts | ⟨-, holder, -, acts⟩
    · exact absurd acts (idle index)
    · exact absurd acts (idle holder)

/-- The workers alone bring a shutdown to its end. -/
theorem exists_stopped (calls : StoreCalls σ) (s : Site σ)
    (stopping : s.engine.stopping = true) :
    ∃ more s', (∀ a ∈ more, a.isWork = true) ∧ s.run? calls more = some s' ∧
      s'.engine.stopped = true := by
  -- The induction is on the effort that is left: every step of a worker costs some.
  induction heffort : s.engine.effort using Nat.strongRecOn generalizing s with
  | ind effort ih =>
      by_cases idle : ∀ index, ¬s.CanAct calls index
      · exact ⟨[], s, by simp, rfl, stopped_of_idle stopping idle⟩
      · obtain ⟨index, acts⟩ := Classical.not_forall.mp idle
        obtain ⟨a, next, work, hstep⟩ := (Classical.not_not.mp acts).step
        have step := step_of_step? hstep
        obtain ⟨more, s', allWork, run, stopped⟩ :=
          ih next.engine.effort (heffort ▸ effort_step step work) next
            (stopping_step stopping step) rfl
        refine ⟨a :: more, s', ?_, (Trace.run?_cons _).mpr ⟨next, hstep, run⟩, stopped⟩
        intro b member
        rcases List.mem_cons.mp member with rfl | later
        · exact work
        · exact allWork b later

theorem isWork_of_stopped {s s' : Site σ} {a : Action} (stopped : s.engine.stopped = true)
    (step : Step calls s a s') : a.isWork = false := by
  cases step with
  | turned stands advance =>
      rw [Engine.exited_of_stopped stopped stands] at advance
      cases advance
  | took stands advance =>
      rw [Engine.exited_of_stopped stopped stands] at advance
      cases advance
  | embedded stands => cases Engine.exited_of_stopped stopped stands
  | notEmbedded stands => cases Engine.exited_of_stopped stopped stands
  | wrote stands => cases Engine.exited_of_stopped stopped stands
  | accepted | dropped | lookedUp | shutdown | shutdownReturned => rfl

theorem not_canAct_of_stopped {s : Site σ} (stopped : s.engine.stopped = true) (index : Nat) :
    ¬s.CanAct calls index := by
  intro acts
  obtain ⟨a, s', work, hstep⟩ := acts.step
  rw [isWork_of_stopped stopped (step_of_step? hstep)] at work
  cases work

theorem stopped_step {s s' : Site σ} {a : Action} (stopped : s.engine.stopped = true)
    (step : Step calls s a s') : s'.engine.stopped = true := by
  have stopping : s.engine.stopping = true := (Bool.and_eq_true_iff.mp stopped).1
  rw [engine_step stopping step (isWork_of_stopped stopped step), stopped]

/-- What a shutdown leaves: no worker and no record that has not been dealt with. The log is what
the store has written down by itself. -/
structure Drained (s : Site σ) (log : List Deposit) : Prop where
  exited : ∀ w ∈ s.engine.workers, w = .exited
  queue : s.engine.queue = []
  inFlight : s.engine.inFlight = []
  /-- The write of each accepted record was attempted, and only once. -/
  attempted : (s.ledger.ended.map Prod.fst).Perm (List.range s.ledger.accepted.length)
  written : ∀ n write, (n, write) ∈ s.ledger.ended →
    ∃ r, s.ledger.accepted[n]? = some r ∧
      Written s.engine.collection r write (s.ledger.callsOf n)
  /-- The store was asked for each record that could be embedded, once, and for nothing else. -/
  deposited : s.ledger.Confirmed s.engine.collection log

/-- What holds in every run of a started engine and matters for its shutdown. -/
structure Closable (settings : Settings) (actions : List Action) (s : Site σ) : Prop where
  kept : s.Kept settings actions
  orderly : s.engine.Orderly
  returned : 0 < s.returned → s.engine.stopped = true

theorem closable_opened (settings : Settings) (store : σ) :
    (opened (Engine.idle settings) store).Closable settings [] := by
  refine ⟨kept_opened settings store, ⟨?_, ?_⟩, fun h => absurd h (Nat.lt_irrefl 0)⟩
  · intro index w stands noticed
    have hw := List.mem_of_getElem? stands
    simp only [opened, Engine.idle, List.mem_replicate] at hw
    rw [hw.2] at noticed
    cases noticed
  · intro index exits
    rfl

theorem closable_step {settings : Settings} {actions : List Action} {s s' : Site σ} {a : Action}
    (h : s.Closable settings actions) (step : Step calls s a s') :
    s'.Closable settings (actions ++ [a]) := by
  refine ⟨kept_step h.kept step, orderly_step h.orderly step, fun returned => ?_⟩
  by_cases before : 0 < s.returned
  · exact stopped_step (h.returned before) step
  · cases step with
    | shutdownReturned _ stopped => exact stopped
    | @lookedUp question vector =>
        have same : (s.lookup calls question vector).2.returned = s.returned := by
          cases vector <;> rfl
        exact absurd (same ▸ returned) before
    | _ => exact absurd returned before

theorem closable_run {settings : Settings} {before actions : List Action} {start s : Site σ}
    (h : start.Closable settings before) (run : start.run? calls actions = some s) :
    s.Closable settings (before ++ actions) := by
  refine run_induction (motive := fun actions s => s.Closable settings (before ++ actions)) ?_ ?_
    run
  · rw [List.append_nil]
    exact h
  · intro actions s a s' h step
    rw [← List.append_assoc]
    exact closable_step h step

theorem Closable.drained {settings : Settings} {actions : List Action} {s : Site σ}
    {log : List Deposit} (h : s.Closable settings actions) (logged : s.ledger.Logged log)
    (workers : 0 < settings.workers.toNat) (stopped : s.engine.stopped = true) :
    s.Drained log := by
  have exited : ∀ w ∈ s.engine.workers, w = .exited := fun w member => by
    obtain ⟨index, stands⟩ := List.getElem?_of_mem member
    exact Engine.exited_of_stopped stopped stands
  have hsome : 0 < s.engine.workers.length := h.kept.workers ▸ workers
  have hfirst : s.engine.workers[0]? = some .exited := by
    rw [List.getElem?_eq_getElem hsome, exited _ (List.getElem_mem hsome)]
  have queue := h.orderly.exited 0 hfirst
  have inFlight : s.engine.inFlight = [] := by
    apply List.filterMap_eq_nil_iff.mpr
    intro w member
    rw [exited w member]
    rfl
  have hnumbers := h.kept.numbered.numbers
  have hlength := h.kept.numbered.length_inFlight
  have order := h.kept.numbered.order
  rw [inFlight, List.length_nil, Nat.zero_add] at hlength
  rw [queue, List.append_nil] at order
  have hands : s.ledger.hands.filterMap id = [] := by
    have hcount := hnumbers.length_eq
    rw [List.length_append, List.length_map, List.length_range] at hcount
    exact List.eq_nil_of_length_eq_zero (by omega)
  rw [hands, List.nil_append] at hnumbers
  refine ⟨exited, queue, inFlight, order ▸ hnumbers, fun n write ended => ?_,
    logged.confirmed h.kept.numbered h.kept.called⟩
  rw [order]
  exact h.kept.called.written n write ended

/-- A site whose shutdown has begun, with what its store has written down by itself. -/
structure Closing (calls : StoreCalls σ) (s : Site σ) (log : List Deposit) : Prop where
  /-- No record is accepted any more. -/
  refuses : ∀ more s', s.run? calls more = some s' →
    s'.ledger.accepted = s.ledger.accepted ∧ ∀ r, (s'.engine.record r).1 = false
  /-- A call for a shutdown returns only when everything is done. -/
  returns : (s.step? calls .shutdownReturns).isSome → s.Drained log
  /-- Since any of them returned, everything is done. -/
  returned : 0 < s.returned → s.Drained log
  /-- A worker is awake, or waits for another that is. -/
  awake : ∀ (index : Nat) (w : Worker), s.engine.workers[index]? = some w → w ≠ .exited →
    s.CanAct calls index ∨
      w = .draining ∧ ∃ holder : Nat, s.engine.workers[holder]? = some .receiving ∧
        s.CanAct calls holder
  /-- The workers have only so many steps left. -/
  bounded : ∀ more s', s.run? calls more = some s' →
    more.countP Action.isWork ≤
      4 * s.engine.queue.length + 2 * s.engine.inFlight.length + 3 * s.engine.workers.length
  /-- When no worker has a step left, a call for a shutdown can return. -/
  rests : (∀ index, ¬s.CanAct calls index) →
    s.Drained log ∧ (0 < s.waiting → (s.step? calls .shutdownReturns).isSome)
  /-- The workers need nobody else to come to that. -/
  finishes : ∃ more s' log', (∀ a ∈ more, a.isWork = true) ∧ s.run? calls more = some s' ∧
    (∀ index, ¬s'.CanAct calls index) ∧
    (s.withLog log).run? calls.logged more = some (s'.withLog log') ∧ s'.Drained log'
  /-- Another call for a shutdown changes nothing, and neither does its return. -/
  again : ∀ a s', a = .shutdown ∨ a = .shutdownReturns → s.step? calls a = some s' →
    s'.engine = s.engine ∧ s'.store = s.store ∧ s'.ledger = s.ledger ∧ s'.metrics = s.metrics

theorem stopping_run {s s' : Site σ} {more : List Action} (stopping : s.engine.stopping = true)
    (run : s.run? calls more = some s') : s'.engine.stopping = true :=
  run_induction (motive := fun _ s => s.engine.stopping = true) stopping
    (fun _ _ _ _ h step => stopping_step h step) run

theorem accepted_run {s s' : Site σ} {more : List Action} (stopping : s.engine.stopping = true)
    (run : s.run? calls more = some s') : s'.ledger.accepted = s.ledger.accepted :=
  (run_induction
    (motive := fun _ later => later.engine.stopping = true ∧
      later.ledger.accepted = s.ledger.accepted)
    ⟨stopping, rfl⟩
    (fun _ _ _ _ h step => ⟨stopping_step h.1 step, (accepted_step h.1 step).trans h.2⟩) run).2

theorem Closable.closing {settings : Settings} {actions : List Action} {s : Site σ}
    {log : List Deposit} (h : s.Closable settings actions) (logged : s.ledger.Logged log)
    (workers : 0 < settings.workers.toNat) (begun : Action.shutdown ∈ actions) :
    s.Closing calls log := by
  have stopping : s.engine.stopping = true := h.kept.stopping.mpr begun
  refine
    { refuses := ?_, returns := ?_, returned := ?_, awake := ?_, bounded := ?_, rests := ?_,
      finishes := ?_, again := ?_ }
  · intro more s' run
    have later := stopping_run stopping run
    exact ⟨accepted_run stopping run, fun r => by simp [Engine.record, later]⟩
  · intro can
    obtain ⟨s', hstep⟩ := Option.isSome_iff_exists.mp can
    cases step_of_step? hstep with
    | shutdownReturned _ stopped => exact h.drained logged workers stopped
  · intro some
    exact h.drained logged workers (h.returned some)
  · intro index w stands alive
    exact Site.awake calls stopping stands alive
  · intro more s' run
    have hwork := work_le_effort stopping run
    have heffort := s.engine.effort_le
    omega
  · intro idle
    have stopped := stopped_of_idle stopping idle
    exact ⟨h.drained logged workers stopped, fun waits => by
      simp [step?, shutdownReturns?, waits, stopped]⟩
  · obtain ⟨more, s', allWork, run, stopped⟩ := exists_stopped calls s stopping
    obtain ⟨log', run', logged'⟩ := exists_logged h.kept logged run
    exact ⟨more, s', log', allWork, run, not_canAct_of_stopped stopped, run',
      (closable_run h run).drained logged' workers stopped⟩
  · intro a s' which hstep
    have step := step_of_step? hstep
    rcases which with rfl | rfl
    · cases step
      exact ⟨by simp [Site.shutdown, Engine.shutdown, ← stopping], rfl, rfl, rfl⟩
    · cases step
      exact ⟨rfl, rfl, rfl, rfl⟩

/-- In every run of an engine that was started, a shutdown that has begun comes to its end once the
calls to embedder and store return, and no record is lost by it: neither for the account nor for a
store that keeps a log by itself. -/
theorem run_closing {ensure : Store.Ensure.Calls (StateM σ)} {settings : Settings}
    {dimensions : Nat} {before store : σ} {engine : Engine} {created : Bool}
    {actions : List Action} {s : Site σ}
    (started : (Engine.start ensure settings dimensions).run before =
      (.ok (engine, created), store))
    (run : (opened engine store).run? calls actions = some s)
    (begun : Action.shutdown ∈ actions) :
    ∃ log, (opened engine (store, [])).run? calls.logged actions = some (s.withLog log) ∧
      s.Closing calls log := by
  obtain ⟨valid, -, rfl, -⟩ := Engine.start_eq_ok started
  obtain ⟨log, run', logged⟩ := exists_logged (kept_opened settings store) .nil run
  have closable : s.Closable settings actions := closable_run (closable_opened settings store) run
  exact ⟨log, run', closable.closing logged (Engine.workers_pos valid) begun⟩

/-- After the small run two workers still stand. They notice the shutdown and go, it returns, and
the store has been asked for the one record that could be embedded. -/
theorem run_closing_small :
    ∃ s, (opened (Engine.idle .small) Settings.smallStore).run? .memory (smallRun ++
        [.move 0 .notice, .move 1 .notice, .move 1 .drain, .move 0 .drain, .shutdownReturns]) =
          some s ∧
      s.returned = 1 ∧ s.store.points "answers" = [smallPoint] ∧
      s.Closing .memory [⟨"answers", smallPoint, .ok ()⟩] ∧
      s.Drained [⟨"answers", smallPoint, .ok ()⟩] := by
  have happens : ((opened (Engine.idle .small) Settings.smallStore).run? .memory (smallRun ++
      [.move 0 .notice, .move 1 .notice, .move 1 .drain, .move 0 .drain, .shutdownReturns])).map
        (fun s => (s.returned, s.store.points "answers")) = some (1, [smallPoint]) := rfl
  have logs : ((opened (Engine.idle .small) (Settings.smallStore, [])).run?
      StoreCalls.memory.logged (smallRun ++
        [.move 0 .notice, .move 1 .notice, .move 1 .drain, .move 0 .drain, .shutdownReturns])).map
          (·.store.2) = some [⟨"answers", smallPoint, .ok ()⟩] := rfl
  obtain ⟨s, run, facts⟩ := Option.map_eq_some_iff.mp happens
  obtain ⟨returned, points⟩ := Prod.mk.inj facts
  obtain ⟨log, logged, closing⟩ := run_closing Engine.start_small run (by simp [smallRun])
  rw [logged] at logs
  obtain rfl : log = [⟨"answers", smallPoint, .ok ()⟩] := Option.some.inj logs
  exact ⟨s, run, returned, points, closing, closing.returned (by rw [returned]; exact Nat.one_pos)⟩

end Site

end AnswerGateway.Cache
