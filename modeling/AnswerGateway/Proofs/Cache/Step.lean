import AnswerGateway.Proofs.Cache.Site

/-!
Every step of a site, spelled out, and induction over its runs. `Step` says what each action changes
and under which guard; an invariant of all runs is shown by going through its cases once.
-/

namespace AnswerGateway.Cache

/-- What is found in a list after one of its places was changed is new, or was there before. -/
theorem getElem?_set_cases {α : Type} {l : List α} {index other : Nat} {a b : α}
    (h : (l.set index a)[other]? = some b) :
    (index = other ∧ a = b) ∨ (index ≠ other ∧ l[other]? = some b) := by
  rw [List.getElem?_set] at h
  by_cases same : index = other
  · rw [if_pos same] at h
    split at h
    · exact .inl ⟨same, Option.some.inj h⟩
    · cases h
  · rw [if_neg same] at h
    exact .inr ⟨same, h⟩

namespace Engine

def withWorker (e : Engine) (index : Nat) (w : Worker) : Engine :=
  { e with workers := e.workers.set index w }

variable (e : Engine) (index : Nat) (w : Worker)

@[simp]
theorem withWorker_workers : (e.withWorker index w).workers = e.workers.set index w := rfl

@[simp]
theorem withWorker_queue : (e.withWorker index w).queue = e.queue := rfl

@[simp]
theorem withWorker_stopping : (e.withWorker index w).stopping = e.stopping := rfl

@[simp]
theorem withWorker_capacity : (e.withWorker index w).capacity = e.capacity := rfl

@[simp]
theorem withWorker_collection : (e.withWorker index w).collection = e.collection := rfl

end Engine

namespace Site

variable {σ : Type} (calls : StoreCalls σ)

/-- What the store answers to a worker that brings a record, and the store after it. -/
def upserted (s : Site σ) (r : Record) (v : Vector) (id : String) (time : Json) :
    Except Fault Unit × σ :=
  calls.upsert s.engine.collection (Engine.pointOf id time r v) s.store

/-- A step: what happens and what the site is then. Of workers only the one that acts changes. -/
inductive Step (s : Site σ) : Action → Site σ → Prop where
  | accepted {r : Record} (running : s.engine.stopping = false)
      (room : s.engine.queue.length < s.engine.capacity) :
      Step s (.offer r)
        { s with
          engine := { s.engine with queue := s.engine.queue ++ [r] }
          metrics := s.metrics.record (.enqueue true)
          ledger := s.ledger.accept r }
  | dropped {r : Record}
      (refused : s.engine.stopping = true ∨ s.engine.capacity ≤ s.engine.queue.length) :
      Step s (.offer r) { s with metrics := s.metrics.record (.enqueue false) }
  | turned {index : Nat} {event : Engine.Event} {w w' : Worker}
      (stands : s.engine.workers[index]? = some w)
      (advance : s.engine.Advance w event w' s.engine.queue)
      (before : w.record? = none) (after : w'.record? = none) :
      Step s (.move index event) { s with engine := s.engine.withWorker index w' }
  | took {index : Nat} {event : Engine.Event} {w : Worker} {r : Record} {d : Bool}
      {rest : List Record} (stands : s.engine.workers[index]? = some w)
      (advance : s.engine.Advance w event (.embedding r d) rest)
      (before : w.record? = none) (next : s.engine.queue = r :: rest) :
      Step s (.move index event)
        { s with
          engine := { s.engine.withWorker index (.embedding r d) with queue := rest }
          ledger := s.ledger.take index r }
  | embedded {index : Nat} {r : Record} {d : Bool} {v : Vector}
      (stands : s.engine.workers[index]? = some (.embedding r d)) :
      Step s (.embed index (.ok v))
        { s with
          engine := s.engine.withWorker index (.storing r v d)
          ledger := s.ledger.call index (.embed r.prompt (.ok v)) }
  | notEmbedded {index : Nat} {r : Record} {d : Bool} {f : Fault}
      (stands : s.engine.workers[index]? = some (.embedding r d)) :
      Step s (.embed index (.error f))
        { s with
          engine := s.engine.withWorker index (.next d)
          metrics := s.metrics.record (.write .embedError)
          ledger := (s.ledger.call index (.embed r.prompt (.error f))).finish index .embedError }
  | wrote {index : Nat} {r : Record} {v : Vector} {d : Bool} {id : String} {time : Json}
      (stands : s.engine.workers[index]? = some (.storing r v d)) :
      Step s (.upsert index id time)
        { s with
          engine := s.engine.withWorker index (.next d)
          store := (s.upserted calls r v id time).2
          metrics := s.metrics.record (.write (writeOf (s.upserted calls r v id time).1))
          ledger :=
            (s.ledger.call index (.upsert s.engine.collection (Engine.pointOf id time r v)
              (s.upserted calls r v id time).1)).finish index
              (writeOf (s.upserted calls r v id time).1) }
  | lookedUp {question : LookupRequest} {vector : Except Fault Vector} :
      Step s (.lookup question vector) (s.lookup calls question vector).2
  | shutdown : Step s .shutdown s.shutdown
  | shutdownReturned (waits : 0 < s.waiting) (stopped : s.engine.stopped = true) :
      Step s .shutdownReturns
        { s with waiting := s.waiting - 1, returned := s.returned + 1 }

variable {calls}

@[simp]
theorem engine_lookup (s : Site σ) (question : LookupRequest) (vector : Except Fault Vector) :
    (s.lookup calls question vector).2.engine = s.engine := by
  cases vector <;> rfl

@[simp]
theorem ledger_lookup (s : Site σ) (question : LookupRequest) (vector : Except Fault Vector) :
    (s.lookup calls question vector).2.ledger = s.ledger := by
  cases vector <;> rfl

theorem step_offer (s : Site σ) (r : Record) : Step calls s (.offer r) (s.offer r).2 := by
  by_cases refused : s.engine.stopping = true ∨ s.engine.capacity ≤ s.engine.queue.length
  · have hoffer : (s.offer r).2 = { s with metrics := s.metrics.record (.enqueue false) } := by
      simp [offer, Engine.record, refused]
    rw [hoffer]
    exact .dropped refused
  · have hoffer : (s.offer r).2 =
        { s with
          engine := { s.engine with queue := s.engine.queue ++ [r] }
          metrics := s.metrics.record (.enqueue true)
          ledger := s.ledger.accept r } := by
      simp [offer, Engine.record, refused]
    rw [hoffer]
    simp only [not_or, Bool.not_eq_true, Nat.not_le] at refused
    exact .accepted refused.1 refused.2

theorem step_move {s s' : Site σ} {index : Nat} {event : Engine.Event}
    (h : s.move? index event = some s') : Step calls s (.move index event) s' := by
  simp only [move?] at h
  split at h
  · rename_i inside
    simp only [Option.bind_eq_bind, Option.bind_eq_some_iff] at h
    obtain ⟨engine, hwork, h⟩ := h
    obtain ⟨w, w', queue, stands, advance, rfl⟩ := (Engine.work_eq_some_iff _ _ _ _).mp hwork
    have hindex : index < s.engine.workers.length := (List.getElem?_eq_some_iff.mp stands).1
    simp only [List.getElem?_set_self hindex, Option.bind_some] at h
    cases h
    -- Only taking from the queue puts a record into the hands of a worker.
    cases advance with
    | receive next =>
        exact .took stands (.receive next) rfl next
    | drain free next =>
        exact .took stands (.drain free next) rfl next
    | acquire free => exact .turned stands (.acquire free) rfl rfl
    | noticeWaiting stopping => exact .turned stands (.noticeWaiting stopping) rfl rfl
    | noticeReceiving stopping => exact .turned stands (.noticeReceiving stopping) rfl rfl
    | leave empty stopping =>
        have advance : s.engine.Advance .receiving .receive .exited s.engine.queue := by
          rw [empty]
          exact .leave empty stopping
        have step : Step calls s (.move index .receive) _ := .turned stands advance rfl rfl
        simpa [Engine.withWorker, empty, Worker.record?] using step
    | drained free empty =>
        have advance : s.engine.Advance .draining .drain .exited s.engine.queue := by
          rw [empty]
          exact .drained free empty
        have step : Step calls s (.move index .drain) _ := .turned stands advance rfl rfl
        simpa [Engine.withWorker, empty, Worker.record?] using step
    | embedded | notEmbedded | stored => cases inside
  · cases h

theorem step_embed {s s' : Site σ} {index : Nat} {answer : Except Fault Vector}
    (h : s.embed? index answer = some s') : Step calls s (.embed index answer) s' := by
  simp only [embed?, Option.bind_eq_bind, Option.bind_eq_some_iff] at h
  obtain ⟨r, ⟨holder, hholder, hr⟩, engine, hwork, h⟩ := h
  obtain ⟨w, w', queue, stands, advance, rfl⟩ := (Engine.work_eq_some_iff _ _ _ _).mp hwork
  obtain rfl : holder = w := Option.some.inj (hholder.symm.trans stands)
  cases advance with
  | embedded r' d v =>
      obtain rfl : r' = r := Option.some.inj hr
      cases h
      exact .embedded stands
  | notEmbedded r' d f =>
      obtain rfl : r' = r := Option.some.inj hr
      cases h
      exact .notEmbedded stands

theorem step_upsert {s s' : Site σ} {index : Nat} {id : String} {time : Json}
    (h : s.upsert? calls index id time = some s') : Step calls s (.upsert index id time) s' := by
  simp only [upsert?] at h
  split at h
  · rename_i r v d stands
    simp only [Option.bind_eq_bind, Option.bind_eq_some_iff] at h
    obtain ⟨engine, hwork, h⟩ := h
    obtain ⟨w, w', queue, stands', advance, rfl⟩ := (Engine.work_eq_some_iff _ _ _ _).mp hwork
    rw [stands] at stands'
    cases stands'
    cases advance
    cases h
    exact .wrote stands
  · cases h

/-- Whatever a site does is one of the steps. -/
theorem step_of_step? {s s' : Site σ} {a : Action} (h : s.step? calls a = some s') :
    Step calls s a s' := by
  cases a with
  | offer r =>
      cases h
      exact step_offer s r
  | move index event => exact step_move h
  | embed index answer => exact step_embed h
  | upsert index id time => exact step_upsert h
  | lookup question vector =>
      cases h
      exact .lookedUp
  | shutdown =>
      cases h
      exact .shutdown
  | shutdownReturns =>
      simp only [step?, shutdownReturns?] at h
      split at h
      · rename_i ready
        cases h
        simp only [Bool.and_eq_true, decide_eq_true_eq] at ready
        exact .shutdownReturned ready.1 ready.2
      · cases h

/-- Induction over runs: what holds at the start and is kept by every step holds after every run. -/
theorem run_induction {start : Site σ} {motive : List Action → Site σ → Prop}
    (initial : motive [] start)
    (kept : ∀ actions s a s', motive actions s → Step calls s a s' → motive (actions ++ [a]) s')
    {actions : List Action} {s : Site σ} (h : start.run? calls actions = some s) :
    motive actions s :=
  Trace.induction initial
    (fun actions s a s' holds step => kept actions s a s' holds (step_of_step? step)) h

end Site

end AnswerGateway.Cache
