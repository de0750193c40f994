import AnswerGateway.Cache.Session
import AnswerGateway.Proofs.Cache.Accounting

/-!
The schedule of a session is one of those of a site. A session lets its workers take their steps in
a fixed order; whatever is done with it is also a run of a site with the same engine, store and
numbers, so what holds of every run of a site holds of it. A point that is put into the store from
outside is no such run.
-/

namespace AnswerGateway.Cache

/-- The calls of an engine to a store in memory that refuses some of them. -/
def StoreFaults.storeCalls (faults : StoreFaults) : StoreCalls Store.Memory where
  upsert name point m := orRefuse faults.upsert (m.upsert name point) m
  query name question m := orRefuse faults.query (m.query name question, m) m

/-- Where a session and a site stand alike. -/
structure Session.At (s : Session) (site : Site Store.Memory) : Prop where
  engine : site.engine = s.engine
  store : site.store = s.store
  metrics : site.metrics = s.metrics

/-- Whether a run of a site can go along from one session to another. -/
def Session.Follows (s s' : Session) : Prop :=
  s'.faults = s.faults ∧ s'.embed = s.embed ∧ ∀ site, s.At site →
    ∃ actions site', site.run? s.faults.storeCalls actions = some site' ∧ s'.At site'

namespace Session

variable {s s' : Session}

theorem Follows.refl (s : Session) : s.Follows s :=
  ⟨rfl, rfl, fun site same => ⟨[], site, rfl, same⟩⟩

theorem Follows.trans {s'' : Session} (first : s.Follows s') (second : s'.Follows s'') :
    s.Follows s'' := by
  obtain ⟨faults, embed, hfirst⟩ := first
  obtain ⟨faults', embed', hsecond⟩ := second
  refine ⟨faults'.trans faults, embed'.trans embed, fun site same => ?_⟩
  obtain ⟨actions, site', run, same'⟩ := hfirst site same
  obtain ⟨actions', site'', run', same''⟩ := hsecond site' same'
  refine ⟨actions ++ actions', site'', ?_, same''⟩
  rw [faults] at run'
  simp only [Site.run?] at run run' ⊢
  rw [Trace.run?_append, run, Option.bind_some, run']

theorem Follows.of_step {s' : Session} (faults : s'.faults = s.faults) (embed : s'.embed = s.embed)
    (step : ∀ site, s.At site →
      ∃ a site', site.step? s.faults.storeCalls a = some site' ∧ s'.At site') : s.Follows s' := by
  refine ⟨faults, embed, fun site same => ?_⟩
  obtain ⟨a, site', hstep, same'⟩ := step site same
  exact ⟨[a], site', (Trace.run?_cons _).mpr ⟨site', hstep, rfl⟩, same'⟩

variable {site : Site Store.Memory} {index : Nat} {event : Engine.Event} {engine : Engine}

section Started

variable {settings : Settings} {dimensions : Nat} {embed : String → Except Fault Vector}
  {store : Store.Memory} {faults : StoreFaults} {freshId : Nat → String} {time : Json}

theorem engine_of_started (h : start settings dimensions embed store faults freshId time = .ok s) :
    s.engine = .idle settings := by
  unfold start at h
  cases hrun : (Engine.start faults.calls settings dimensions).run store with
  | mk result after =>
      rw [hrun] at h
      cases result with
      | error f => cases h
      | ok made =>
          cases h
          exact (Engine.start_eq_ok hrun).2.2.1

theorem at_opened (h : start settings dimensions embed store faults freshId time = .ok s) :
    s.At (.opened (.idle settings) s.store) := by
  refine ⟨(engine_of_started h).symm, rfl, ?_⟩
  unfold start at h
  split at h
  · cases h
    rfl
  · cases h

/-- However a session has been used since it was started, its counters account for the records that
it has accepted. -/
theorem counters_of_follows
    (h : start settings dimensions embed store faults freshId time = .ok s) (used : s.Follows s') :
    s'.metrics.count (Metrics.enqueueSeries true) =
      s'.engine.queue.length + s'.engine.inFlight.length +
        s'.metrics.count (Metrics.writeSeries .stored) +
        s'.metrics.count (Metrics.writeSeries .embedError) +
        s'.metrics.count (Metrics.writeSeries .upsertError) := by
  obtain ⟨-, -, goes⟩ := used
  obtain ⟨actions, site', run, same⟩ := goes _ (at_opened h)
  have kept : site'.Kept settings actions :=
    Site.run_induction (Site.kept_opened settings s.store)
      (fun _ _ _ _ earlier step => Site.kept_step earlier step) run
  have accounted : site'.Accounted s.faults.storeCalls settings.queueCapacity.toNat
      settings.workers.toNat (Action.shutdown ∈ actions) := kept.accounted
  rw [← same.engine, ← same.metrics]
  exact accounted.counters

end Started

theorem At.move (same : s.At site) (inside : event.isInside = true)
    (work : s.engine.work? index event = some engine) :
    ∃ a site', site.step? s.faults.storeCalls a = some site' ∧ site'.engine = engine ∧
      site'.store = s.store ∧ site'.metrics = s.metrics := by
  have hwork := work
  rw [← same.engine] at hwork
  refine ⟨.move index event, ?_⟩
  simp only [Site.step?, Site.move?, inside, hwork, if_true]
  exact ⟨_, rfl, rfl, same.store, same.metrics⟩

theorem At.embed {r : Record} {d : Bool} {answer : Except Fault Vector} (same : s.At site)
    (stands : s.engine.workers[index]? = some (.embedding r d))
    (work : s.engine.work? index (.embedded answer) = some engine) :
    ∃ a site', site.step? s.faults.storeCalls a = some site' ∧ site'.engine = engine ∧
      site'.store = s.store ∧
      site'.metrics = (Engine.Event.embedded answer).counted?.elim s.metrics s.metrics.record := by
  cases answer with
  | ok v =>
      refine ⟨.embed index (.ok v),
        { site with engine, ledger := site.ledger.call index (.embed r.prompt (.ok v)) }, ?_, rfl,
        same.store, same.metrics⟩
      simp only [Site.step?, Site.embed?, same.engine, stands, work]
      rfl
  | error f =>
      refine ⟨.embed index (.error f),
        { site with
          engine
          metrics := site.metrics.record (.write .embedError)
          ledger :=
            (site.ledger.call index (.embed r.prompt (.error f))).finish index .embedError },
        ?_, rfl, same.store, ?_⟩
      · simp only [Site.step?, Site.embed?, same.engine, stands, work]
        rfl
      · simp [same.metrics, Engine.Event.counted?]

theorem At.upsert {r : Record} {v : Vector} {d : Bool} (same : s.At site)
    (stands : s.engine.workers[index]? = some (.storing r v d))
    (work : s.engine.work? index (.stored (s.upsert r v).1) = some engine) :
    ∃ a site', site.step? s.faults.storeCalls a = some site' ∧ site'.engine = engine ∧
      site'.store = (s.upsert r v).2 ∧
      site'.metrics = (Engine.Event.stored (s.upsert r v).1).counted?.elim s.metrics
        s.metrics.record := by
  have hcall : s.faults.storeCalls.upsert s.engine.collection
      (Engine.pointOf (s.freshId s.steps) s.time r v) s.store = s.upsert r v := rfl
  refine ⟨.upsert index (s.freshId s.steps) s.time,
    { site with
      engine
      store := (s.upsert r v).2
      metrics := site.metrics.record (.write (writeOf (s.upsert r v).1))
      ledger := (site.ledger.call index (.upsert s.engine.collection
        (Engine.pointOf (s.freshId s.steps) s.time r v) (s.upsert r v).1)).finish index
        (writeOf (s.upsert r v).1) }, ?_, rfl, rfl, ?_⟩
  · simp only [Site.step?, Site.upsert?, same.engine, same.store, stands, hcall, work]
    rfl
  · cases hanswer : (s.upsert r v).1 <;> simp [same.metrics, Engine.Event.counted?, writeOf]

/-- A step of a worker of the session is one of a worker of the site. -/
theorem follows_workerStep (h : s.workerStep index = some s') : s.Follows s' := by
  simp only [workerStep, Option.bind_eq_bind, Option.bind_eq_some_iff] at h
  obtain ⟨w, stands, ⟨event, store⟩, next, engine, work, h⟩ := h
  cases h
  refine .of_step rfl rfl fun site same => ?_
  suffices moved : ∃ a site', site.step? s.faults.storeCalls a = some site' ∧
      site'.engine = engine ∧ site'.store = store ∧
      site'.metrics = event.counted?.elim s.metrics s.metrics.record by
    obtain ⟨a, site', step, hengine, hstore, hmetrics⟩ := moved
    exact ⟨a, site', step, hengine, hstore, hmetrics⟩
  cases w with
  | waiting =>
      cases next
      cases hstopping : s.engine.stopping <;> rw [hstopping] at work <;> exact same.move rfl work
  | receiving =>
      cases next
      cases hstopping : s.engine.stopping <;> rw [hstopping] at work <;> exact same.move rfl work
  | draining =>
      cases next
      exact same.move rfl work
  | embedding r d =>
      cases held : s.held with
      | true => simp [nextEvent?, held] at next
      | false =>
          simp only [nextEvent?, held, Bool.false_eq_true, if_false, Option.some.injEq,
            Prod.mk.injEq] at next
          obtain ⟨rfl, rfl⟩ := next
          exact same.embed stands work
  | storing r v d =>
      cases next
      exact same.upsert stands work
  | exited => cases next

theorem follows_runFor (fuel : Nat) (s : Session) : s.Follows (s.runFor fuel) := by
  induction fuel generalizing s with
  | zero => exact .refl s
  | succ fuel ih =>
      unfold runFor
      cases hstep : s.step with
      | none => exact .refl s
      | some next =>
          obtain ⟨index, -, hworker⟩ := List.exists_of_findSome?_eq_some hstep
          exact (follows_workerStep hworker).trans (ih next)

theorem follows_settle (s : Session) : s.Follows s.settle := follows_runFor _ s

theorem follows_offer (s : Session) (r : Record) : s.Follows (s.offer r).2 := by
  refine .of_step rfl rfl fun site same => ⟨.offer r, (site.offer r).2, rfl, ?_, ?_, ?_⟩
  · simp [Site.offer, Session.offer, count, same.engine]
  · simp [Site.offer, Session.offer, count, same.store]
  · simp [Site.offer, Session.offer, count, same.engine, same.metrics]

theorem follows_record (s : Session) (r : Record) : s.Follows (s.record r).2 :=
  (follows_offer s r).trans (follows_settle _)

theorem follows_burst (s : Session) (rs : List Record) : s.Follows (s.burst rs).2 := by
  refine Follows.trans ?_ (follows_settle _)
  refine List.foldlRecOn (motive := fun reached : List Bool × Session => s.Follows reached.2) rs _
    (.refl s) ?_
  intro reached follows r _
  exact follows.trans (follows_offer reached.2 r)

theorem follows_lookup (s : Session) (prompt model : String) :
    s.Follows (s.lookup prompt model).2 := by
  unfold Session.lookup
  split
  · exact .refl s
  · refine .of_step rfl rfl fun site same =>
      ⟨.lookup ⟨prompt, model⟩ (s.embed prompt), _, rfl, ?_⟩
    cases hembed : s.embed prompt with
    | error f =>
        have hanswer : s.answerTo prompt model = .error f := by
          unfold answerTo
          rw [hembed]
          rfl
        refine ⟨same.engine, same.store, ?_⟩
        simp [Site.lookup, count, hanswer, Engine.lookupEvent, same.metrics]
    | ok v =>
        have hanswer : s.answerTo prompt model =
            (s.faults.storeCalls.query site.engine.collection
              (site.engine.lookupQuery model v) site.store).1.map Engine.resultOf := by
          rw [same.engine, same.store]
          unfold answerTo
          rw [hembed]
          cases hfaults : s.faults.query with
          | some f =>
              simp only [StoreFaults.storeCalls, orRefuse, hfaults]
              rfl
          | none =>
              simp only [StoreFaults.storeCalls, orRefuse, hfaults]
              cases hquery : s.store.query s.engine.collection (s.engine.lookupQuery model v) <;>
                simp [bind, Except.bind, hquery, Except.map, pure, Except.pure]
        refine ⟨same.engine, ?_, ?_⟩
        · simp only [Site.lookup, StoreFaults.storeCalls, orRefuse, count]
          cases s.faults.query <;> exact same.store
        · simp [Site.lookup, count, hanswer, same.metrics]

/-- What is kept beside engine, store and numbers makes no difference. -/
private theorem Follows.same (faults : s'.faults = s.faults) (embed : s'.embed = s.embed)
    (engine : s'.engine = s.engine) (store : s'.store = s.store)
    (metrics : s'.metrics = s.metrics) : s.Follows s' :=
  ⟨faults, embed, fun site same => ⟨[], site, rfl, same.engine.trans engine.symm,
    same.store.trans store.symm, same.metrics.trans metrics.symm⟩⟩

theorem follows_shutdown (s : Session) : s.Follows s.shutdown.2 := by
  have begun : s.Follows { s with engine := s.engine.shutdown } := by
    refine .of_step rfl rfl fun site same =>
      ⟨.shutdown, site.shutdown, rfl, ?_, same.store, same.metrics⟩
    simp [Site.shutdown, same.engine]
  exact (begun.trans (follows_settle _)).trans (.same rfl rfl rfl rfl rfl)

theorem follows_pause (s : Session) : s.Follows s.pause := .same rfl rfl rfl rfl rfl

theorem follows_resume (s : Session) : s.Follows s.resume := by
  have free : s.Follows { s with held := false } := .same rfl rfl rfl rfl rfl
  exact free.trans (follows_settle _)

end Session

end AnswerGateway.Cache
