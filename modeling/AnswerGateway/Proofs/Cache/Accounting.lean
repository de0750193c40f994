import AnswerGateway.Proofs.Cache.Deposits
import AnswerGateway.Proofs.Cache.Start
import Mathlib.Algebra.GroupWithZero.Nat
import Mathlib.Data.List.Basic

/-!
Every accepted record is accounted for. In every run of an engine that was started, with any store
and any answers of the embedder, each accepted record is in the queue, in the hands of one worker or
done with, and the counters say so. A log that the store keeps by itself says the same of those that
were brought to it.
-/

namespace AnswerGateway

namespace Metrics

theorem count_record (m : Metrics) (event : Event) (series : Series) :
    (m.record event).count series =
      m.count series + (event.rows.map fun row => if series = row.1 then row.2 else 0).sum := by
  unfold record
  induction event.rows generalizing m with
  | nil => simp
  | cons row rest ih =>
      simp only [List.foldl_cons, List.map_cons, List.sum_cons]
      rw [ih, count_add]
      omega

@[simp]
theorem count_enqueue_enqueue (m : Metrics) (a b : Bool) :
    (m.record (.enqueue a)).count (enqueueSeries b) =
      m.count (enqueueSeries b) + if a = b then 1 else 0 := by
  cases a <;> cases b <;> simp [count_record, Event.rows, enqueueSeries]

@[simp]
theorem count_enqueue_write (m : Metrics) (a : Bool) (w : Write) :
    (m.record (.enqueue a)).count (writeSeries w) = m.count (writeSeries w) := by
  simp [count_record, Event.rows, enqueueSeries, writeSeries]

@[simp]
theorem count_write_enqueue (m : Metrics) (w : Write) (b : Bool) :
    (m.record (.write w)).count (enqueueSeries b) = m.count (enqueueSeries b) := by
  simp [count_record, Event.rows, enqueueSeries, writeSeries]

@[simp]
theorem count_write_write (m : Metrics) (v w : Write) :
    (m.record (.write v)).count (writeSeries w) =
      m.count (writeSeries w) + if v = w then 1 else 0 := by
  cases v <;> cases w <;> simp [count_record, Event.rows, writeSeries, Write.name]

@[simp]
theorem count_lookup_enqueue (m : Metrics) (l : Lookup) (b : Bool) :
    (m.record (.lookup l)).count (enqueueSeries b) = m.count (enqueueSeries b) := by
  simp [count_record, Event.rows, enqueueSeries, lookupSeries]

@[simp]
theorem count_lookup_write (m : Metrics) (l : Lookup) (w : Write) :
    (m.record (.lookup l)).count (writeSeries w) = m.count (writeSeries w) := by
  simp [count_record, Event.rows, writeSeries, lookupSeries]

end Metrics

namespace Cache

namespace Ledger

def endedRecords (l : Ledger) : List Record := l.ended.filterMap fun e => l.accepted[e.1]?

variable {l : Ledger} {e : Engine}

theorem count_ended (l : Ledger) :
    l.ended.length = l.count .stored + l.count .embedError + l.count .upsertError := by
  unfold count
  induction l.ended with
  | nil => rfl
  | cons entry rest ih =>
      obtain ⟨n, write⟩ := entry
      cases write <;> simp [ih] <;> omega

namespace Numbered

private theorem filterMap_range (first second : List Record) :
    (List.range first.length).filterMap ((first ++ second)[·]?) = first := by
  have hmap : (List.range first.length).map ((first ++ second)[·]?) = first.map some := by
    apply List.ext_getElem (by simp)
    intro index hindex _
    have hlt : index < first.length := by simpa using hindex
    simp [List.getElem?_append_left hlt, hlt]
  have hcompose := congrArg (List.filterMap id) hmap
  simpa [List.filterMap_map, Function.comp_def] using hcompose

/-- The records in the hands of workers are those of the numbers in their hands. -/
theorem inFlight_eq (h : l.Numbered e) :
    e.inFlight = (l.hands.filterMap id).filterMap (l.accepted[·]?) := by
  have hworkers : e.inFlight = (e.workers.map Worker.record?).filterMap id := by
    simp [Engine.inFlight, List.filterMap_map]
  rw [hworkers, h.held, List.filterMap_map, List.filterMap_filterMap]
  apply List.filterMap_congr
  intro hand member
  cases hand with
  | none => rfl
  | some n =>
      obtain ⟨place, hplace⟩ := List.getElem?_of_mem member
      exact (h.accepted_getElem? (h.lt_of_hand hplace)).symm

/-- The accepted records are the ones in the queue, the ones in hand and the ones done with. -/
theorem records (h : l.Numbered e) :
    l.accepted.Perm (e.queue ++ (e.inFlight ++ l.endedRecords)) := by
  -- Every number stands for its record.
  have hperm := h.numbers.filterMap (l.accepted[·]?)
  rw [List.filterMap_append, ← h.inFlight_eq, List.filterMap_map] at hperm
  have hrange : (List.range l.taken.length).filterMap (l.accepted[·]?) = l.taken := by
    rw [h.order]
    exact filterMap_range l.taken e.queue
  rw [hrange] at hperm
  have hsplit : l.accepted.Perm (e.queue ++ l.taken) := by
    rw [h.order]
    exact List.perm_append_comm
  exact hsplit.trans (hperm.symm.append_left e.queue)

/-- No number of an accepted record is missing and none is in two places. -/
theorem allNumbers (h : l.Numbered e) :
    (List.range l.accepted.length).Perm
      (List.range' l.taken.length e.queue.length ++
        (l.hands.filterMap id ++ l.ended.map Prod.fst)) := by
  have hlength : l.accepted.length = l.taken.length + e.queue.length := by
    simp [h.order]
  rw [hlength, List.range_eq_range', ← List.range'_append_1, ← List.range_eq_range', Nat.zero_add]
  exact List.perm_append_comm.trans (h.numbers.symm.append_left _)

theorem length_inFlight (h : l.Numbered e) :
    e.inFlight.length + l.ended.length = l.taken.length := by
  have hnumbers := h.numbers.length_eq
  have hrecords := h.records.length_eq
  have hhands : e.inFlight.length ≤ (l.hands.filterMap id).length := by
    rw [h.inFlight_eq]
    exact List.length_filterMap_le _ _
  have hended : l.endedRecords.length ≤ l.ended.length := List.length_filterMap_le _ _
  simp only [h.order, List.length_append, List.length_map, List.length_range] at hnumbers hrecords
  omega

end Numbered

end Ledger

def Action.worker? : Action → Option Nat
  | .move index _ | .embed index _ | .upsert index _ _ => some index
  | _ => none

/-- A failed embedding leaves the engine as a successful write does, and an upsert leaves it the
same whether the store took the point or not. -/
theorem Engine.work?_after_failure (e : Engine) (index : Nat) (v : Vector) (f : Fault)
    (answer : Except Fault Unit) :
    (e.work? index (.embedded (.ok v))).bind (·.work? index (.stored answer)) =
      e.work? index (.embedded (.error f)) := by
  cases hw : e.workers[index]? with
  | none => simp [work?, hw]
  | some w =>
      obtain ⟨hindex, -⟩ := List.getElem?_eq_some_iff.mp hw
      cases w <;> simp [work?, hw, event?, List.getElem?_set_self hindex]

namespace Site

variable {σ : Type} {calls : StoreCalls σ}

structure Counted (s : Site σ) : Prop where
  accepted : s.metrics.count (Metrics.enqueueSeries true) = s.ledger.accepted.length
  written : ∀ w, s.metrics.count (Metrics.writeSeries w) = s.ledger.count w

private theorem count_finish {l : Ledger} {index n : Nat} (c : Call) (w v : Metrics.Write)
    (hand : l.inHand? index = some n) :
    ((l.call index c).finish index w).count v = l.count v + if w = v then 1 else 0 := by
  rw [Ledger.finish_of_inHand w (n := n) (by rw [Ledger.inHand?_call, hand])]
  by_cases same : w = v <;> simp [Ledger.count, same]

theorem counted_step {s s' : Site σ} {a : Action} (h : s.Counted)
    (numbered : s.ledger.Numbered s.engine) (step : Step calls s a s') : s'.Counted := by
  cases step with
  | accepted =>
      refine ⟨?_, ?_⟩
      · simp [Ledger.accept, h.accepted]
      · simpa [Ledger.count, Ledger.accept] using h.written
  | dropped => exact ⟨by simpa using h.accepted, by simpa using h.written⟩
  | turned => exact ⟨h.accepted, h.written⟩
  | took => exact ⟨h.accepted, h.written⟩
  | embedded =>
      exact ⟨by simpa using h.accepted, by simpa [Ledger.count] using h.written⟩
  | notEmbedded stands =>
      obtain ⟨n, hand, -⟩ := numbered.inHand stands rfl
      refine ⟨by simpa using h.accepted, fun v => ?_⟩
      rw [Metrics.count_write_write, h.written, count_finish _ _ _ hand]
  | wrote stands =>
      obtain ⟨n, hand, -⟩ := numbered.inHand stands rfl
      refine ⟨by simpa using h.accepted, fun v => ?_⟩
      rw [Metrics.count_write_write, h.written, count_finish _ _ _ hand]
  | @lookedUp question vector =>
      cases vector with
      | error => exact ⟨by simpa [lookup] using h.accepted, by simpa [lookup] using h.written⟩
      | ok v =>
          have hevent : ∀ answer, ∃ l, Engine.lookupEvent answer = .lookup l := by
            intro answer
            cases answer with
            | error => exact ⟨_, rfl⟩
            | ok => exact ⟨_, rfl⟩
          obtain ⟨l, hl⟩ := hevent ((calls.query s.engine.collection
            (s.engine.lookupQuery question.model v) s.store).1.map Engine.resultOf)
          exact ⟨by simpa [lookup, hl] using h.accepted, by simpa [lookup, hl] using h.written⟩
  | shutdown => exact ⟨h.accepted, h.written⟩
  | shutdownReturned => exact ⟨h.accepted, h.written⟩

/-- What every run of a started engine keeps: its settings, the room in its queue, the memory of its
shutdown, and the account of its records. -/
structure Kept (settings : Settings) (actions : List Action) (s : Site σ) : Prop where
  collection : s.engine.collection = settings.collection
  capacity : s.engine.capacity = settings.queueCapacity.toNat
  workers : s.engine.workers.length = settings.workers.toNat
  room : s.engine.queue.length ≤ s.engine.capacity
  stopping : s.engine.stopping = true ↔ Action.shutdown ∈ actions
  numbered : s.ledger.Numbered s.engine
  called : s.ledger.Called s.engine
  counted : s.Counted

theorem kept_opened (settings : Settings) (store : σ) :
    (opened (Engine.idle settings) store).Kept settings [] := by
  refine ⟨rfl, rfl, by simp [opened, Engine.idle], Nat.zero_le _, by simp [opened, Engine.idle],
    numbered_opened settings store, ⟨fun _ _ => rfl, ?_, ?_⟩, ⟨rfl, fun w => ?_⟩⟩
  · intro index w n _ hand
    simp only [opened, Ledger.inHand?, List.getElem?_map] at hand
    cases hw : (Engine.idle settings).workers[index]? <;> simp [hw] at hand
  · intro n write ended
    cases ended
  · cases w <;> rfl

theorem kept_step {settings : Settings} {actions : List Action} {s s' : Site σ} {a : Action}
    (h : s.Kept settings actions) (step : Step calls s a s') :
    s'.Kept settings (actions ++ [a]) := by
  have hnumbered := numbered_step h.numbered step
  have hcalled := called_step h.called h.numbered step
  have hcounted := counted_step h.counted h.numbered step
  have hroom := h.room
  cases step with
  | accepted running room =>
      refine ⟨h.collection, h.capacity, h.workers, ?_, ?_, hnumbered, hcalled, hcounted⟩
      · rw [List.length_append, List.length_singleton]
        exact room
      · simpa using h.stopping
  | took _ _ _ next =>
      refine ⟨h.collection, h.capacity, by simpa using h.workers, ?_, by simpa using h.stopping,
        hnumbered, hcalled, hcounted⟩
      rw [next, List.length_cons] at hroom
      exact Nat.le_of_succ_le hroom
  | dropped | turned | embedded | notEmbedded | wrote | shutdownReturned =>
      exact ⟨h.collection, h.capacity, by simpa using h.workers, h.room,
        by simpa using h.stopping, hnumbered, hcalled, hcounted⟩
  | lookedUp =>
      exact ⟨by simpa using h.collection, by simpa using h.capacity, by simpa using h.workers,
        by simpa using h.room, by simpa using h.stopping, hnumbered, hcalled, hcounted⟩
  | shutdown =>
      exact ⟨h.collection, h.capacity, h.workers, h.room, by simp [Site.shutdown, Engine.shutdown],
        hnumbered, hcalled, hcounted⟩

/-- The store has no part in this, so another store makes no difference. -/
theorem Kept.withStore {τ : Type} {settings : Settings} {actions : List Action} {s : Site σ}
    {t : Site τ} (h : s.Kept settings actions) (engine : t.engine = s.engine)
    (metrics : t.metrics = s.metrics) (ledger : t.ledger = s.ledger) :
    t.Kept settings actions := by
  obtain ⟨e, store, m, waiting, returned, l⟩ := t
  obtain rfl : e = s.engine := engine
  obtain rfl : m = s.metrics := metrics
  obtain rfl : l = s.ledger := ledger
  exact ⟨h.collection, h.capacity, h.workers, h.room, h.stopping, h.numbered, h.called,
    ⟨h.counted.accepted, h.counted.written⟩⟩

/-- Whatever store it is, the log that it keeps by itself goes along with the account. -/
theorem exists_logged {settings : Settings} {before actions : List Action} {start s : Site σ}
    {log : List Deposit} (kept : start.Kept settings before) (logged : start.ledger.Logged log)
    (run : start.run? calls actions = some s) :
    ∃ after, (start.withLog log).run? calls.logged actions = some (s.withLog after) ∧
      s.ledger.Logged after := by
  obtain ⟨after, run'⟩ := exists_log log run
  have along : (s.withLog after).Kept settings (before ++ actions) ∧ s.ledger.Logged after := by
    refine run_induction (motive := fun actions t =>
      t.Kept settings (before ++ actions) ∧ t.ledger.Logged t.store.2) ?_ ?_ run'
    · rw [List.append_nil]
      exact ⟨kept.withStore rfl rfl rfl, logged⟩
    · intro actions t a t' ⟨kept, logged⟩ step
      rw [← List.append_assoc]
      exact ⟨kept_step kept step, logged_step logged kept.numbered step⟩
  exact ⟨after, run', along.2⟩

/-- Whatever a worker does, nothing changes for a record that it does not have in hand. -/
theorem step_apart {s s' : Site σ} {a : Action} {n : Nat} (numbered : s.ledger.Numbered s.engine)
    (step : Step calls s a s')
    (apart : ∀ index, a.worker? = some index → s.ledger.inHand? index ≠ some n) :
    s'.ledger.callsOf n = s.ledger.callsOf n ∧
      ∀ write, (n, write) ∈ s'.ledger.ended ↔ (n, write) ∈ s.ledger.ended := by
  cases step with
  | accepted | dropped | turned | took | shutdown | shutdownReturned =>
      exact ⟨rfl, fun _ => Iff.rfl⟩
  | lookedUp => simp
  | @embedded index r d v stands =>
      obtain ⟨m, hand, -⟩ := numbered.inHand stands rfl
      have differs : m ≠ n := fun same => apart index rfl (same ▸ hand)
      exact ⟨by simp [Ledger.callsOf_call _ index m n _ hand, differs], by simp⟩
  | @notEmbedded index r d f stands =>
      obtain ⟨m, hand, -⟩ := numbered.inHand stands rfl
      have differs : m ≠ n := fun same => apart index rfl (same ▸ hand)
      refine ⟨by simp [Ledger.callsOf_call _ index m n _ hand, differs], fun write => ?_⟩
      rw [Ledger.finish_of_inHand (n := m) _ (by simpa using hand)]
      simp [differs.symm]
  | @wrote index r v d id time stands =>
      obtain ⟨m, hand, -⟩ := numbered.inHand stands rfl
      have differs : m ≠ n := fun same => apart index rfl (same ▸ hand)
      refine ⟨by simp [Ledger.callsOf_call _ index m n _ hand, differs], fun write => ?_⟩
      rw [Ledger.finish_of_inHand (n := m) _ (by simpa using hand)]
      simp [differs.symm]

/-- The account of the records that were accepted, for an engine with so much room in its queue and
so many workers. -/
structure Accounted (calls : StoreCalls σ) (room workers : Nat) (shutDown : Prop) (s : Site σ) :
    Prop where
  /-- A record is accepted exactly if the engine was not shut down and there is room. -/
  accepts : ∀ r, (s.engine.record r).1 = true ↔ ¬shutDown ∧ s.engine.queue.length < room
  /-- A record that is not accepted changes nothing. -/
  refuses : ∀ r, (s.engine.record r).1 = false → (s.engine.record r).2 = s.engine
  queued : s.engine.queue.length ≤ room
  inFlight : s.engine.inFlight.length ≤ workers
  /-- The accepted records are those in the queue, those in flight and those done with. -/
  records : s.ledger.accepted.Perm
    (s.engine.queue ++ (s.engine.inFlight ++ s.ledger.endedRecords))
  /-- The same for their numbers, of which there are no two alike. -/
  numbers : (List.range s.ledger.accepted.length).Perm
    (List.range' s.ledger.taken.length s.engine.queue.length ++
      (s.ledger.hands.filterMap id ++ s.ledger.ended.map Prod.fst))
  /-- A record that is done with was embedded once and brought to the store at most once, whole. -/
  written : ∀ n write, (n, write) ∈ s.ledger.ended →
    ∃ r, s.ledger.accepted[n]? = some r ∧
      Written s.engine.collection r write (s.ledger.callsOf n)
  /-- A record that waits has caused no call. -/
  untouched : ∀ n, s.ledger.taken.length ≤ n → s.ledger.callsOf n = []
  acceptedCount : s.metrics.count (Metrics.enqueueSeries true) = s.ledger.accepted.length
  counters : s.metrics.count (Metrics.enqueueSeries true) =
    s.engine.queue.length + s.engine.inFlight.length +
      s.metrics.count (Metrics.writeSeries .stored) +
      s.metrics.count (Metrics.writeSeries .embedError) +
      s.metrics.count (Metrics.writeSeries .upsertError)
  /-- Records leave the queue in the order in which they were accepted. -/
  order : s.ledger.accepted = s.ledger.taken ++ s.engine.queue
  /-- What happens to one record changes nothing for another. -/
  apart : ∀ a s', s.step? calls a = some s' → ∀ n,
    (∀ index, a.worker? = some index → s.ledger.inHand? index ≠ some n) →
    s'.ledger.callsOf n = s.ledger.callsOf n ∧
      ∀ write, (n, write) ∈ s'.ledger.ended ↔ (n, write) ∈ s.ledger.ended
  /-- A write that failed leaves queue and workers as one that succeeded. -/
  failures : ∀ index v f answer,
    (s.engine.work? index (.embedded (.ok v))).bind (·.work? index (.stored answer)) =
      s.engine.work? index (.embedded (.error f))

theorem Kept.accounted {settings : Settings} {actions : List Action} {s : Site σ}
    (h : s.Kept settings actions) :
    s.Accounted calls settings.queueCapacity.toNat settings.workers.toNat
      (Action.shutdown ∈ actions) where
  accepts r := by
    rw [← h.stopping, ← h.capacity]
    by_cases stopping : s.engine.stopping = true
    · simp [Engine.record, stopping]
    · by_cases full : s.engine.capacity ≤ s.engine.queue.length
      · simp [Engine.record, full, Nat.not_lt.mpr full]
      · simp [Engine.record, stopping, full, Nat.not_le.mp full]
  refuses r refused := by
    unfold Engine.record at refused ⊢
    split at refused
    · rename_i full
      rw [if_pos full]
    · cases refused
  queued := h.capacity ▸ h.room
  inFlight := by
    rw [← h.workers]
    exact List.length_filterMap_le _ _
  records := h.numbered.records
  numbers := h.numbered.allNumbers
  written n write ended := by
    rw [h.numbered.accepted_getElem? (h.numbered.lt_of_ended ended)]
    exact h.called.written n write ended
  untouched := h.called.untouched
  acceptedCount := h.counted.accepted
  counters := by
    have hlength := h.numbered.length_inFlight
    have hended := s.ledger.count_ended
    have horder := congrArg List.length h.numbered.order
    rw [List.length_append] at horder
    simp only [h.counted.accepted, h.counted.written]
    omega
  order := h.numbered.order
  apart a s' step n := step_apart h.numbered (step_of_step? step)
  failures := s.engine.work?_after_failure

/-- Every run of an engine that was started keeps account of the records that it accepted, whatever
the store and the embedder answer. Had the store kept a log by itself, it would have in it what the
account says: a point for each record whose writing ended at the store, which carries the record
whole, and nothing else. -/
theorem run_accounted {ensure : Store.Ensure.Calls (StateM σ)} {settings : Settings}
    {dimensions : Nat} {before store : σ} {engine : Engine} {created : Bool}
    {actions : List Action} {s : Site σ}
    (started : (Engine.start ensure settings dimensions).run before =
      (.ok (engine, created), store))
    (run : (opened engine store).run? calls actions = some s) :
    s.Accounted calls settings.queueCapacity.toNat settings.workers.toNat
        (Action.shutdown ∈ actions) ∧
      ∃ log, (opened engine (store, [])).run? calls.logged actions = some (s.withLog log) ∧
        s.ledger.Confirmed settings.collection log := by
  obtain ⟨-, -, rfl, -⟩ := Engine.start_eq_ok started
  have hkept : s.Kept settings actions :=
    run_induction (kept_opened settings store) (fun _ _ _ _ h step => kept_step h step) run
  obtain ⟨log, logged, agrees⟩ := exists_logged (kept_opened settings store) .nil run
  refine ⟨hkept.accounted, log, logged, ?_⟩
  rw [← hkept.collection]
  exact agrees.confirmed hkept.numbered hkept.called

/-- A run of the small cache: of four records that are offered one is stored, one cannot be
embedded, one finds the queue full and one comes after the shutdown. -/
def smallRun : List Action :=
  let r : Record := { prompt := "question", response := "answer", model := "model" }
  [.offer r, .move 0 .acquire, .move 0 .receive, .offer r, .offer r, .embed 0 (.ok [1]),
    .move 1 .acquire, .move 1 .receive, .upsert 0 "id" .null, .embed 1 (.error (.embedding "down")),
    .shutdown, .offer r]

/-- The point by which the store has the record of this run, field by field. -/
def smallPoint : Store.Point where
  id := "id"
  vector := [1]
  payload := [("answer", .str "answer"), ("model", .str "model"), ("question", .str "question"),
    ("timestamp", .null), ("tokenUsage", .ofUInt32 0)]

theorem run_accounted_small :
    ∃ s, (opened (Engine.idle .small) Settings.smallStore).run? .memory smallRun = some s ∧
      s.ledger.ended = [(0, .stored), (1, .embedError)] ∧
      s.store.points "answers" = [smallPoint] ∧
      s.Accounted .memory 1 2 (Action.shutdown ∈ smallRun) ∧
      (opened (Engine.idle .small) (Settings.smallStore, [])).run? StoreCalls.memory.logged
        smallRun = some (s.withLog [⟨"answers", smallPoint, .ok ()⟩]) ∧
      s.ledger.Confirmed "answers" [⟨"answers", smallPoint, .ok ()⟩] := by
  have happens : ((opened (Engine.idle .small) Settings.smallStore).run? .memory smallRun).map
      (fun s => (s.ledger.ended, s.store.points "answers")) =
        some ([(0, .stored), (1, .embedError)], [smallPoint]) := rfl
  have logs : ((opened (Engine.idle .small) (Settings.smallStore, [])).run?
      StoreCalls.memory.logged smallRun).map (·.store.2) =
        some [⟨"answers", smallPoint, .ok ()⟩] := rfl
  obtain ⟨s, run, facts⟩ := Option.map_eq_some_iff.mp happens
  obtain ⟨ended, points⟩ := Prod.mk.inj facts
  obtain ⟨accounted, log, logged, confirmed⟩ := run_accounted Engine.start_small run
  rw [logged] at logs
  obtain rfl : log = [⟨"answers", smallPoint, .ok ()⟩] := Option.some.inj logs
  exact ⟨s, run, ended, points, accounted, logged, confirmed⟩

end Site

end Cache

end AnswerGateway
