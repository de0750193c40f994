import AnswerGateway.Proofs.Cache.Ledger
import Mathlib.Algebra.GroupWithZero.Nat

/-!
How much the workers of an engine still have to do. Every step of a worker lowers the number, so
workers can only go on for long if records keep coming. After a shutdown none come, and every worker
that has not gone can act itself or waits only for one that can.
-/

namespace AnswerGateway.Cache

/-- The steps that a worker still has to take if the queue is empty. -/
def Worker.effort : Worker → Nat
  | .exited => 0
  | .draining => 1
  | .receiving => 2
  | .waiting => 3
  | .storing _ _ d => if d then 2 else 4
  | .embedding _ d => if d then 3 else 5

/-- What the workers still have to do. A record that waits counts for the steps by which it makes a
worker begin anew. -/
def Engine.effort (e : Engine) : Nat :=
  4 * e.queue.length + (e.workers.map Worker.effort).sum

theorem sum_map_set {α : Type} (f : α → Nat) {l : List α} {index : Nat} {a : α} (b : α)
    (h : l[index]? = some a) :
    ((l.set index b).map f).sum + f a = (l.map f).sum + f b := by
  induction l generalizing index with
  | nil => cases h
  | cons head rest ih =>
      cases index with
      | zero =>
          obtain rfl : head = a := by simpa using h
          simp only [List.set_cons_zero, List.map_cons, List.sum_cons]
          omega
      | succ index =>
          have hrest := @ih index (by simpa using h)
          simp only [List.set_cons_succ, List.map_cons, List.sum_cons]
          omega

namespace Engine

variable {e : Engine} {index : Nat} {w w' : Worker} {event : Event} {queue : List Record}

/-- A step of a worker costs effort, also where it takes a record from the queue. -/
theorem Advance.effort_lt (h : e.Advance w event w' queue) :
    4 * queue.length + w'.effort < 4 * e.queue.length + w.effort := by
  cases h with
  | receive next | drain _ next =>
      rw [next, List.length_cons]
      simp only [Worker.effort, Bool.false_eq_true, if_false, if_true]
      omega
  | embedded _ d | notEmbedded _ d | stored _ _ d =>
      cases d <;> simp [Worker.effort, Worker.next]
  | leave empty | drained _ empty => simp [Worker.effort, empty]
  | acquire | noticeWaiting | noticeReceiving => simp [Worker.effort]

theorem effort_lt (stands : e.workers[index]? = some w) (h : e.Advance w event w' queue) :
    effort { e.withWorker index w' with queue } < e.effort := by
  have hsum := sum_map_set Worker.effort w' stands
  have hstep := h.effort_lt
  simp only [effort, withWorker_workers]
  omega

/-- The effort is bounded by the records that wait and those in the hands of workers. -/
theorem effort_le (e : Engine) :
    e.effort ≤ 4 * e.queue.length + 2 * e.inFlight.length + 3 * e.workers.length := by
  have hworkers : (e.workers.map Worker.effort).sum ≤
      2 * (e.workers.filterMap Worker.record?).length + 3 * e.workers.length := by
    induction e.workers with
    | nil => simp
    | cons w rest ih =>
        simp only [List.map_cons, List.sum_cons, List.length_cons, List.filterMap_cons]
        have hw : w.effort ≤ 3 + if w.record?.isSome then 2 else 0 := by
          cases w with
          | embedding _ d | storing _ _ d => cases d <;> simp [Worker.effort, Worker.record?]
          | _ => simp [Worker.effort, Worker.record?]
        cases hrecord : w.record? <;> simp [hrecord] at hw ⊢ <;> omega
  simp only [effort, inFlight]
  omega

end Engine

namespace Site

variable {σ : Type} {calls : StoreCalls σ}

theorem effort_step {s s' : Site σ} {a : Action} (step : Step calls s a s')
    (work : a.isWork = true) : s'.engine.effort < s.engine.effort := by
  cases step with
  | turned stands advance => exact Engine.effort_lt stands advance
  | took stands advance => exact Engine.effort_lt stands advance
  | embedded stands => exact Engine.effort_lt stands (.embedded _ _ _)
  | @notEmbedded _ _ _ f stands => exact Engine.effort_lt stands (.notEmbedded _ _ f)
  | wrote stands => exact Engine.effort_lt stands (.stored _ _ _ (.ok ()))
  | accepted | dropped | lookedUp | shutdown | shutdownReturned => cases work

theorem engine_step {s s' : Site σ} {a : Action} (stopping : s.engine.stopping = true)
    (step : Step calls s a s') (idle : a.isWork = false) : s'.engine = s.engine := by
  cases step with
  | accepted running =>
      rw [stopping] at running
      cases running
  | dropped | shutdownReturned => rfl
  | lookedUp => simp
  | shutdown => simp [Site.shutdown, Engine.shutdown, ← stopping]
  | turned | took | embedded | notEmbedded | wrote => cases idle

theorem stopping_step {s s' : Site σ} {a : Action} (stopping : s.engine.stopping = true)
    (step : Step calls s a s') : s'.engine.stopping = true := by
  cases step with
  | shutdown => rfl
  | lookedUp => simpa using stopping
  | _ => exact stopping

theorem accepted_step {s s' : Site σ} {a : Action} (stopping : s.engine.stopping = true)
    (step : Step calls s a s') : s'.ledger.accepted = s.ledger.accepted := by
  cases step with
  | accepted running =>
      rw [stopping] at running
      cases running
  | lookedUp => simp
  | embedded => simp
  | notEmbedded | wrote => simp
  | _ => rfl

/-- After a shutdown has begun, a run has no more steps of workers than the effort allows. -/
theorem work_le_effort {s s' : Site σ} {more : List Action} (stopping : s.engine.stopping = true)
    (run : s.run? calls more = some s') :
    more.countP Action.isWork + s'.engine.effort ≤ s.engine.effort := by
  -- What is not a step of a worker costs nothing, because it leaves the engine as it is.
  induction more generalizing s with
  | nil =>
      cases run
      simp
  | cons a rest ih =>
      obtain ⟨next, hstep, hrest⟩ := (Trace.run?_cons _).mp run
      have step := step_of_step? hstep
      have hle := ih (stopping_step stopping step) hrest
      rw [List.countP_cons]
      cases work : a.isWork with
      | false =>
          rw [engine_step stopping step work] at hle
          simpa using hle
      | true =>
          have hlt := effort_step step work
          simp only [if_true]
          omega

end Site

end AnswerGateway.Cache
