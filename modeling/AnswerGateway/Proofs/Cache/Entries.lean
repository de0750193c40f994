import AnswerGateway.Proofs.Cache.Accounting
import AnswerGateway.Proofs.Cache.Filled
import AnswerGateway.Proofs.Store.Memory

/-!
What the collection of an engine holds. The account of the records knows every point that the store
took from a worker, and the collection is what was in it at the start with these points put into it
one after the other. So each point in it is an entry: a record with the vector of its question.
-/

namespace AnswerGateway

theorem Store.mem_foldl_putPoint {p : Point} {added points : List Point}
    (h : p ∈ added.foldl (fun points p => putPoint p points) points) :
    p ∈ points ∨ p ∈ added := by
  induction added generalizing points with
  | nil => exact .inl h
  | cons new rest ih =>
      rcases ih h with before | later
      · rcases mem_putPoint before with rfl | before
        · exact .inr List.mem_cons_self
        · exact .inl before
      · exact .inr (List.mem_cons_of_mem new later)

namespace Cache

/-- A list whose members are all images is the image of a list. -/
theorem exists_map {α β : Type} {f : α → β} {P : α → Prop} {l : List β}
    (h : ∀ b ∈ l, ∃ a, f a = b ∧ P a) : ∃ as : List α, l = as.map f ∧ ∀ a ∈ as, P a := by
  induction l with
  | nil => exact ⟨[], rfl, fun a member => nomatch member⟩
  | cons b rest ih =>
      obtain ⟨a, rfl, holds⟩ := h b List.mem_cons_self
      obtain ⟨as, rfl, all⟩ := ih fun c member => h c (List.mem_cons_of_mem _ member)
      exact ⟨a :: as, rfl, List.forall_mem_cons.mpr ⟨holds, all⟩⟩

/-- A record as it is kept: with its id, the time and the vector of its question. -/
structure Entry where
  id : String
  time : Json
  record : Record
  vector : Vector

def Entry.point (e : Entry) : Store.Point := Engine.pointOf e.id e.time e.record e.vector

/-- The point that the store took. -/
def Call.stored? : Call → Option Store.Point
  | .upsert _ point (.ok ()) => some point
  | _ => none

/-- A call for a record in hand was not to the store. -/
theorem Worker.stored_of_answered {w : Worker} {c : Call} (made : c ∈ w.answered) :
    c.stored? = none := by
  cases w with
  | storing r v d =>
      rw [List.mem_singleton.mp made]
      rfl
  | _ => cases made

/-- The id of the point that a worker brings to the store. -/
def Action.pointId? : Action → Option String
  | .upsert _ id _ => some id
  | _ => none

namespace Ledger

/-- The points that the store took from workers, in the order in which it took them. -/
def stored (l : Ledger) : List Store.Point := l.calls.filterMap fun c => c.2.stored?

/-- A record was accepted, embedded once and stored once, as this entry. -/
def Stores (l : Ledger) (collection : String) (e : Entry) : Prop :=
  ∃ n, l.accepted[n]? = some e.record ∧ (n, .stored) ∈ l.ended ∧
    l.callsOf n = [.embed e.record.prompt (.ok e.vector), .upsert collection e.point (.ok ())]

@[simp]
theorem stored_accept (l : Ledger) (r : Record) : (l.accept r).stored = l.stored := rfl

@[simp]
theorem stored_take (l : Ledger) (index : Nat) (r : Record) : (l.take index r).stored = l.stored :=
  rfl

@[simp]
theorem stored_finish (l : Ledger) (index : Nat) (w : Metrics.Write) :
    (l.finish index w).stored = l.stored := by
  unfold finish
  split <;> rfl

theorem stored_call {l : Ledger} {index n : Nat} (c : Call) (hand : l.inHand? index = some n) :
    (l.call index c).stored = l.stored ++ c.stored?.toList := by
  simp only [call, hand, stored, List.filterMap_append]
  cases h : c.stored? <;> simp [h]

theorem stored_embed (l : Ledger) (index : Nat) (text : String) (answer : Except Fault Vector) :
    (l.call index (.embed text answer)).stored = l.stored := by
  unfold call
  split
  · simp [stored, Call.stored?]
  · rfl

variable {l : Ledger} {e : Engine} {p : Store.Point}

theorem Numbered.worker_of_hand {n : Nat} (h : l.Numbered e) (hand : n ∈ l.hands.filterMap id) :
    ∃ index w, e.workers[index]? = some w ∧ l.inHand? index = some n := by
  obtain ⟨hand, member, rfl⟩ := List.mem_filterMap.mp hand
  obtain ⟨index, holds⟩ := List.getElem?_of_mem member
  have asMany : e.workers.length = l.hands.length := by
    simpa using congrArg List.length h.held
  have inside : index < e.workers.length := by
    rw [asMany]
    exact (List.getElem?_eq_some_iff.mp holds).1
  refine ⟨index, e.workers[index], List.getElem?_eq_getElem inside, ?_⟩
  rw [inHand?, holds]
  rfl

/-- A point that the store took is that of a record whose writing has ended well. -/
theorem Called.stores (called : l.Called e) (numbered : l.Numbered e) (taken : p ∈ l.stored) :
    ∃ entry : Entry, entry.point = p ∧ l.Stores e.collection entry := by
  obtain ⟨⟨n, c⟩, made, point⟩ := List.mem_filterMap.mp taken
  have own : c ∈ l.callsOf n := List.mem_filterMap.mpr ⟨(n, c), made, if_pos rfl⟩
  have old : n < l.taken.length := by
    by_contra new
    rw [called.untouched n (Nat.le_of_not_lt new)] at own
    cases own
  have placed : n ∈ l.hands.filterMap id ++ l.ended.map Prod.fst :=
    numbered.numbers.mem_iff.mpr (List.mem_range.mpr old)
  rcases List.mem_append.mp placed with hand | done
  · obtain ⟨index, w, stands, hand⟩ := numbered.worker_of_hand hand
    rw [called.underway index w n stands hand] at own
    rw [Worker.stored_of_answered own] at point
    cases point
  · obtain ⟨⟨m, write⟩, ended, same⟩ := List.mem_map.mp done
    obtain rfl : m = n := same
    obtain ⟨r, htaken, written⟩ := called.written m write ended
    have accepted : l.accepted[m]? = some r := (numbered.accepted_getElem? old).trans htaken
    generalize calls : l.callsOf m = made at own written
    cases written with
    | @stored v _ carries =>
        obtain ⟨id, time, rfl⟩ := carries.eq_pointOf
        refine ⟨⟨id, time, r, v⟩, ?_, m, accepted, ended, calls⟩
        rcases List.mem_pair.mp own with rfl | rfl
        · cases point
        · exact Option.some.inj point
    | embedError f =>
        rw [List.mem_singleton.mp own] at point
        cases point
    | upsertError carries f =>
        rcases List.mem_pair.mp own with rfl | rfl <;> cases point

end Ledger

namespace Site

variable {settings : Settings} {initial : List Store.Point} {s s' : Site Store.Memory} {a : Action}

theorem threshold_step (step : Step .memory s a s') : s'.engine.threshold = s.engine.threshold := by
  cases step with
  | lookedUp => rw [engine_lookup]
  | _ => rfl

theorem store_lookup (s : Site Store.Memory) (question : LookupRequest)
    (vector : Except Fault Vector) : (s.lookup .memory question vector).2.store = s.store := by
  cases vector <;> rfl

/-- What a step adds to the points that the store has taken, it puts into the collection; the id is
that of the action. -/
theorem stored_step (numbered : s.ledger.Numbered s.engine) (step : Step .memory s a s') :
    ∃ added, s'.ledger.stored = s.ledger.stored ++ added ∧
      (added.map Store.Point.id).Sublist a.pointId?.toList ∧
      s'.store.points s.engine.collection =
        added.foldl (fun points p => Store.putPoint p points)
          (s.store.points s.engine.collection) ∧
      ∀ name, s'.store.holds name = s.store.holds name := by
  have nothing (stored : s'.ledger.stored = s.ledger.stored) (store : s'.store = s.store) :
      ∃ added, s'.ledger.stored = s.ledger.stored ++ added ∧
        (added.map Store.Point.id).Sublist a.pointId?.toList ∧
        s'.store.points s.engine.collection =
          added.foldl (fun points p => Store.putPoint p points)
            (s.store.points s.engine.collection) ∧
        ∀ name, s'.store.holds name = s.store.holds name := by
    refine ⟨[], by rw [stored, List.append_nil], List.nil_sublist _, ?_, fun name => ?_⟩
    · rw [store, List.foldl_nil]
    · rw [store]
  cases step with
  | @wrote index r v d id time stands =>
      obtain ⟨n, hand, -⟩ := numbered.inHand stands rfl
      have upserted : s.upserted .memory r v id time =
          s.store.upsert s.engine.collection (Engine.pointOf id time r v) := rfl
      rw [upserted]
      rcases s.store.upsert_cases s.engine.collection (Engine.pointOf id time r v) with
        ⟨f, refused⟩ | ⟨after, done, holds, here, -⟩
      · refine nothing ?_ (by rw [upserted, refused])
        simp [upserted, refused, Ledger.stored_call _ hand, Call.stored?]
      · refine ⟨[Engine.pointOf id time r v], ?_, .refl _, ?_, ?_⟩
        · simp [done, Ledger.stored_call _ hand, Call.stored?]
        · simp [done, here]
        · simp [done, holds]
  | embedded | notEmbedded => exact nothing (by simp [Ledger.stored_embed]) rfl
  | lookedUp => exact nothing (by rw [ledger_lookup]) (store_lookup s _ _)
  | accepted | dropped | turned | took | shutdown | shutdownReturned => exact nothing rfl rfl

/-- The collection is what it was at the start with the points that the store took put into it. -/
structure Stocked (settings : Settings) (initial : List Store.Point) (s : Site Store.Memory) :
    Prop where
  threshold : s.engine.threshold = settings.threshold
  there : s.store.holds settings.collection = true
  points : s.store.points settings.collection =
    s.ledger.stored.foldl (fun points p => Store.putPoint p points) initial

theorem stocked_step (h : s.Stocked settings initial)
    (own : s.engine.collection = settings.collection)
    (numbered : s.ledger.Numbered s.engine) (step : Step .memory s a s') :
    s'.Stocked settings initial := by
  obtain ⟨added, stored, -, points, holds⟩ := stored_step numbered step
  refine ⟨(threshold_step step).trans h.threshold, (holds _).trans h.there, ?_⟩
  rw [own] at points
  rw [points, stored, List.foldl_append, h.points]

/-- In every run of an engine that was started, its collection holds what its workers put there. -/
theorem stocked_run {dimensions : Nat} {before store : Store.Memory}
    {engine : Engine} {created : Bool} {actions : List Action} {s : Site Store.Memory}
    (started : (Engine.start Store.Memory.calls settings dimensions).run before =
      (.ok (engine, created), store))
    (run : (opened engine store).run? .memory actions = some s) :
    s.Kept settings actions ∧
      s.Stocked settings (before.points settings.collection) := by
  obtain ⟨-, -, rfl, ensured⟩ := Engine.start_eq_ok started
  obtain ⟨there, same⟩ := Store.Memory.holds_of_ensure ensured
  have opens : (opened (Engine.idle settings) store).Stocked settings
      (before.points settings.collection) := ⟨rfl, there, same settings.collection⟩
  exact run_induction (motive := fun actions s => s.Kept settings actions ∧
      s.Stocked settings (before.points settings.collection))
    ⟨kept_opened settings store, opens⟩
    (fun _ _ _ _ h step =>
      ⟨kept_step h.1 step, stocked_step h.2 h.1.collection h.1.numbered step⟩) run

/-- What is in the collection are entries: those of the start and those of stored records. -/
theorem Stocked.exists_entries {initial : List Entry}
    {actions : List Action} (h : s.Stocked settings (initial.map Entry.point))
    (kept : s.Kept settings actions) :
    ∃ entries : List Entry, s.store.points settings.collection = entries.map Entry.point ∧
      ∀ e ∈ entries, e ∈ initial ∨ s.ledger.Stores settings.collection e := by
  apply exists_map
  intro p member
  rw [h.points] at member
  rcases Store.mem_foldl_putPoint member with before | taken
  · obtain ⟨e, first, rfl⟩ := List.mem_map.mp before
    exact ⟨e, rfl, .inl first⟩
  · obtain ⟨e, rfl, stores⟩ := kept.called.stores kept.numbered taken
    rw [kept.collection] at stores
    exact ⟨e, rfl, .inr stores⟩

end Site

end Cache

end AnswerGateway
