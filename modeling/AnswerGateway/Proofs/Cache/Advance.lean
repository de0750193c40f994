import AnswerGateway.Cache.Engine

/-!
What the steps of workers and the offers of records do to an engine. `Advance` lists every step a
worker can take, with the guard that allows it; everything later about runs of an engine is read off
this list and never unfolds the step function again.
-/

namespace AnswerGateway.Cache

namespace Engine

/-- A step of a worker: where it stood, what happened, where it stands then and which records wait
then. -/
inductive Advance (e : Engine) : Worker → Event → Worker → List Record → Prop where
  | acquire (free : e.isHeld = false) : Advance e .waiting .acquire .receiving e.queue
  | receive {r : Record} {rest : List Record} (next : e.queue = r :: rest) :
      Advance e .receiving .receive (.embedding r false) rest
  | leave (empty : e.queue = []) (stopping : e.stopping = true) :
      Advance e .receiving .receive .exited []
  | noticeWaiting (stopping : e.stopping = true) : Advance e .waiting .notice .draining e.queue
  | noticeReceiving (stopping : e.stopping = true) :
      Advance e .receiving .notice .draining e.queue
  | drain {r : Record} {rest : List Record} (free : e.isHeld = false)
      (next : e.queue = r :: rest) : Advance e .draining .drain (.embedding r true) rest
  | drained (free : e.isHeld = false) (empty : e.queue = []) :
      Advance e .draining .drain .exited []
  | embedded (r : Record) (d : Bool) (v : Vector) :
      Advance e (.embedding r d) (.embedded (.ok v)) (.storing r v d) e.queue
  | notEmbedded (r : Record) (d : Bool) (f : Fault) :
      Advance e (.embedding r d) (.embedded (.error f)) (.next d) e.queue
  | stored (r : Record) (v : Vector) (d : Bool) (result : Except Fault Unit) :
      Advance e (.storing r v d) (.stored result) (.next d) e.queue

/-- The list is complete and every step on it can happen. -/
theorem event_eq_some_iff (e : Engine) (w w' : Worker) (event : Event) (queue : List Record) :
    e.event? w event = some (w', queue) ↔ Advance e w event w' queue := by
  constructor
  · intro h
    cases event with
    | acquire =>
        cases w <;> simp only [event?, reduceCtorEq] at h
        split at h
        · cases h
        · rename_i free
          cases h
          exact .acquire (by simpa using free)
    | receive =>
        cases w <;> simp only [event?, reduceCtorEq] at h
        cases hqueue : e.queue with
        | nil =>
            simp only [hqueue] at h
            split at h
            · rename_i stopping
              cases h
              exact .leave hqueue stopping
            · cases h
        | cons r rest =>
            simp only [hqueue, Option.some.injEq, Prod.mk.injEq] at h
            obtain ⟨rfl, rfl⟩ := h
            exact .receive hqueue
    | notice =>
        cases w <;> simp only [event?, reduceCtorEq] at h <;> split at h <;> cases h
        · rename_i stopping
          exact .noticeWaiting stopping
        · rename_i stopping
          exact .noticeReceiving stopping
    | drain =>
        simp only [event?] at h
        split at h
        · cases h
        · rename_i held
          have free : e.isHeld = false := by simpa using held
          cases w with
          | draining =>
              cases hqueue : e.queue with
              | nil =>
                  simp only [hqueue, Option.some.injEq, Prod.mk.injEq] at h
                  obtain ⟨rfl, rfl⟩ := h
                  exact .drained free hqueue
              | cons r rest =>
                  simp only [hqueue, Option.some.injEq, Prod.mk.injEq] at h
                  obtain ⟨rfl, rfl⟩ := h
                  exact .drain free hqueue
          | _ => simp at h
    | embedded result =>
        cases w <;> simp only [event?, reduceCtorEq] at h
        cases result with
        | ok v =>
            cases h
            exact .embedded _ _ v
        | error f =>
            cases h
            exact .notEmbedded _ _ f
    | stored result =>
        cases w <;> simp only [event?, reduceCtorEq] at h
        cases h
        exact .stored _ _ _ result
  · intro h
    cases h <;> simp_all [event?]

theorem work_eq_some_iff (e e' : Engine) (index : Nat) (event : Event) :
    e.work? index event = some e' ↔
      ∃ w w' queue, e.workers[index]? = some w ∧ Advance e w event w' queue ∧
        e' = { e with queue, workers := e.workers.set index w' } := by
  constructor
  · intro h
    simp only [work?, Option.bind_eq_bind, Option.bind_eq_some_iff] at h
    obtain ⟨w, hw, ⟨w', queue⟩, hstep, h⟩ := h
    exact ⟨w, w', queue, hw, (event_eq_some_iff e w w' event queue).mp hstep,
      (Option.some.inj h).symm⟩
  · rintro ⟨w, w', queue, hw, hstep, rfl⟩
    simp [work?, hw, (event_eq_some_iff e w w' event queue).mpr hstep]

end Engine

end AnswerGateway.Cache
