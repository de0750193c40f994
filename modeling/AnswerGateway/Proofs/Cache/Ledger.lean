import AnswerGateway.Proofs.Cache.Step

/-!
The numbers of records. In every run each number that was taken from the queue is either in the hand
of exactly one worker or among those whose writing has ended, and the worker has in hand what the
number says.
-/

namespace AnswerGateway.Cache

variable {α : Type}

theorem filterMap_set_some_perm {l : List (Option α)} {index : Nat} (a : α)
    (h : l[index]? = some none) :
    ((l.set index (some a)).filterMap id).Perm (a :: l.filterMap id) := by
  induction l generalizing index with
  | nil => cases h
  | cons head rest ih =>
      cases index with
      | zero =>
          obtain rfl : head = none := by simpa using h
          simp
      | succ index =>
          have hrest := @ih index (by simpa using h)
          cases head with
          | none => simpa using hrest
          | some b =>
              simp only [List.set_cons_succ, List.filterMap_cons, id]
              exact (hrest.cons b).trans (List.Perm.swap a b _)

theorem filterMap_set_none_perm {l : List (Option α)} {index : Nat} {a : α}
    (h : l[index]? = some (some a)) :
    (a :: (l.set index none).filterMap id).Perm (l.filterMap id) := by
  obtain ⟨hindex, hvalue⟩ := List.getElem?_eq_some_iff.mp h
  have hback := filterMap_set_some_perm (l := l.set index none) a (List.getElem?_set_self hindex)
  rw [List.set_set, ← hvalue, List.set_getElem_self hindex] at hback
  exact hback.symm

namespace Ledger

@[simp]
theorem callsOf_accept (l : Ledger) (r : Record) (n : Nat) :
    (l.accept r).callsOf n = l.callsOf n := rfl

@[simp]
theorem callsOf_take (l : Ledger) (index : Nat) (r : Record) (n : Nat) :
    (l.take index r).callsOf n = l.callsOf n := rfl

@[simp]
theorem callsOf_finish (l : Ledger) (index : Nat) (w : Metrics.Write) (n : Nat) :
    (l.finish index w).callsOf n = l.callsOf n := by
  unfold finish
  split <;> rfl

theorem callsOf_call (l : Ledger) (index n m : Nat) (c : Call)
    (h : l.inHand? index = some n) :
    (l.call index c).callsOf m = l.callsOf m ++ if n = m then [c] else [] := by
  by_cases same : n = m <;> simp [call, h, callsOf, same]

@[simp]
theorem hands_call (l : Ledger) (index : Nat) (c : Call) : (l.call index c).hands = l.hands := by
  unfold call
  split <;> rfl

@[simp]
theorem inHand?_call (l : Ledger) (index other : Nat) (c : Call) :
    (l.call index c).inHand? other = l.inHand? other := by
  simp [inHand?]

@[simp]
theorem accepted_call (l : Ledger) (index : Nat) (c : Call) :
    (l.call index c).accepted = l.accepted := by
  unfold call
  split <;> rfl

@[simp]
theorem taken_call (l : Ledger) (index : Nat) (c : Call) : (l.call index c).taken = l.taken := by
  unfold call
  split <;> rfl

@[simp]
theorem ended_call (l : Ledger) (index : Nat) (c : Call) : (l.call index c).ended = l.ended := by
  unfold call
  split <;> rfl

@[simp]
theorem accepted_finish (l : Ledger) (index : Nat) (w : Metrics.Write) :
    (l.finish index w).accepted = l.accepted := by
  unfold finish
  split <;> rfl

theorem finish_of_inHand {l : Ledger} {index n : Nat} (w : Metrics.Write)
    (h : l.inHand? index = some n) :
    l.finish index w =
      { l with hands := l.hands.set index none, ended := l.ended ++ [(n, w)] } := by
  simp [finish, h]

theorem hands_of_inHand {l : Ledger} {index n : Nat} (h : l.inHand? index = some n) :
    l.hands[index]? = some (some n) := by
  simpa [inHand?, Option.join_eq_some_iff] using h

/-- Where the numbers of the accepted records are while an engine is at work. -/
structure Numbered (l : Ledger) (e : Engine) : Prop where
  order : l.accepted = l.taken ++ e.queue
  held : e.workers.map Worker.record? = l.hands.map (·.bind (l.taken[·]?))
  /-- No number is lost and none is in two places. -/
  numbers : (l.hands.filterMap id ++ l.ended.map Prod.fst).Perm (List.range l.taken.length)

namespace Numbered

variable {l : Ledger} {e : Engine} {index n : Nat} {w : Worker} {r : Record}

theorem lt_of_hand (h : l.Numbered e) (hand : l.hands[index]? = some (some n)) :
    n < l.taken.length := by
  apply List.mem_range.mp
  apply h.numbers.mem_iff.mp
  apply List.mem_append_left
  exact List.mem_filterMap.mpr ⟨some n, List.mem_of_getElem? hand, rfl⟩

theorem lt_of_ended {write : Metrics.Write} (h : l.Numbered e) (ended : (n, write) ∈ l.ended) :
    n < l.taken.length := by
  apply List.mem_range.mp
  apply h.numbers.mem_iff.mp
  apply List.mem_append_right
  exact List.mem_map.mpr ⟨(n, write), ended, rfl⟩

theorem accepted_getElem? (h : l.Numbered e) (hlt : n < l.taken.length) :
    l.accepted[n]? = l.taken[n]? := by
  rw [h.order, List.getElem?_append_left hlt]

theorem nodup (h : l.Numbered e) : (l.hands.filterMap id ++ l.ended.map Prod.fst).Nodup :=
  h.numbers.symm.nodup List.nodup_range

theorem hand_of_worker (h : l.Numbered e) (stands : e.workers[index]? = some w) :
    ∃ hand, l.hands[index]? = some hand ∧ w.record? = hand.bind (l.taken[·]?) := by
  have heq := congrArg (·[index]?) h.held
  simp only [List.getElem?_map, stands, Option.map_some] at heq
  obtain ⟨hand, hhand, hrecord⟩ := Option.map_eq_some_iff.mp heq.symm
  exact ⟨hand, hhand, hrecord.symm⟩

theorem inHand (h : l.Numbered e) (stands : e.workers[index]? = some w)
    (busy : w.record? = some r) : ∃ n, l.inHand? index = some n ∧ l.taken[n]? = some r := by
  obtain ⟨hand, hhand, hrecord⟩ := h.hand_of_worker stands
  rw [busy] at hrecord
  obtain ⟨n, rfl, htaken⟩ := Option.bind_eq_some_iff.mp hrecord.symm
  exact ⟨n, by simp [inHand?, hhand], htaken⟩

theorem handFree (h : l.Numbered e) (stands : e.workers[index]? = some w)
    (free : w.record? = none) : l.hands[index]? = some none := by
  obtain ⟨hand, hhand, hrecord⟩ := h.hand_of_worker stands
  cases hand with
  | none => exact hhand
  | some n =>
      have hlt := h.lt_of_hand hhand
      simp [free, hlt] at hrecord

/-- Two workers never have the same number in hand. -/
theorem inHand_injective (h : l.Numbered e) {other : Nat} (one : l.inHand? index = some n)
    (two : l.inHand? other = some n) : index = other := by
  by_cases differs : index = other
  · exact differs
  -- Taken from one hand, the number would still be in the other.
  have hone := hands_of_inHand one
  have hother : (l.hands.set index none)[other]? = some (some n) := by
    rw [List.getElem?_set_ne differs]
    exact hands_of_inHand two
  have hnodup : (n :: (l.hands.set index none).filterMap id).Nodup :=
    (filterMap_set_none_perm hone).symm.nodup (List.nodup_append.mp h.nodup).1
  have hmem : n ∈ (l.hands.set index none).filterMap id :=
    List.mem_filterMap.mpr ⟨some n, List.mem_of_getElem? hother, rfl⟩
  exact absurd hmem (List.nodup_cons.mp hnodup).1

/-- A number whose writing has ended is in no hand. -/
theorem not_inHand_of_ended {write : Metrics.Write} (h : l.Numbered e)
    (ended : (n, write) ∈ l.ended) : l.inHand? index ≠ some n := by
  intro hand
  have hmem : n ∈ l.hands.filterMap id :=
    List.mem_filterMap.mpr ⟨some n, List.mem_of_getElem? (hands_of_inHand hand), rfl⟩
  exact (List.nodup_append.mp h.nodup).2.2 n hmem n
    (List.mem_map.mpr ⟨(n, write), ended, rfl⟩) rfl

theorem accept (h : l.Numbered e) (r : Record) :
    (l.accept r).Numbered { e with queue := e.queue ++ [r] } :=
  ⟨by simp [Ledger.accept, h.order], h.held, h.numbers⟩

/-- A worker that stands elsewhere with the same record, or still with none, changes no number. -/
theorem withWorker {w' : Worker} (h : l.Numbered e) (stands : e.workers[index]? = some w)
    (same : w'.record? = w.record?) : l.Numbered (e.withWorker index w') := by
  obtain ⟨hindex, hw⟩ := List.getElem?_eq_some_iff.mp stands
  have hrecords : (e.workers.set index w').map Worker.record? =
      e.workers.map Worker.record? := by
    rw [List.map_set, same, ← hw, ← List.getElem_map Worker.record? (h := by simpa using hindex)]
    exact List.set_getElem_self _
  exact ⟨h.order, by simpa [hrecords] using h.held, h.numbers⟩

theorem take {d : Bool} {rest : List Record} (h : l.Numbered e)
    (stands : e.workers[index]? = some w) (free : w.record? = none)
    (next : e.queue = r :: rest) :
    (l.take index r).Numbered
      { e.withWorker index (.embedding r d) with queue := rest } := by
  have hfree := h.handFree stands free
  refine ⟨?_, ?_, ?_⟩
  · simp [Ledger.take, h.order, next]
  · -- The new number is that of the record just taken; older numbers keep their records.
    have hold : l.hands.map (·.bind ((l.taken ++ [r])[·]?)) =
        l.hands.map (·.bind (l.taken[·]?)) := by
      apply List.map_congr_left
      intro hand member
      cases hand with
      | none => rfl
      | some n =>
          obtain ⟨place, hplace⟩ := List.getElem?_of_mem member
          exact List.getElem?_append_left (h.lt_of_hand hplace)
    simp only [Engine.withWorker, Ledger.take, List.map_set, hold, ← h.held]
    simp [Worker.record?]
  · have hperm := (filterMap_set_some_perm l.taken.length hfree).append_right
      (l.ended.map Prod.fst)
    simp only [Ledger.take, List.length_append, List.length_singleton, List.range_succ]
    exact (hperm.trans (h.numbers.cons _)).trans (List.perm_append_singleton _ _).symm

theorem call (h : l.Numbered e) (index : Nat) (c : Call) : (l.call index c).Numbered e :=
  ⟨by simpa using h.order, by simpa using h.held, by simpa using h.numbers⟩

theorem finish {write : Metrics.Write} {d : Bool} (h : l.Numbered e)
    (hand : l.inHand? index = some n) :
    (l.finish index write).Numbered (e.withWorker index (.next d)) := by
  have hhand := hands_of_inHand hand
  rw [finish_of_inHand write hand]
  refine ⟨h.order, ?_, ?_⟩
  · have hnone : (Worker.next d).record? = none := by cases d <;> rfl
    simp [List.map_set, h.held, hnone]
  · have hperm := (filterMap_set_none_perm hhand).append_right (l.ended.map Prod.fst)
    simp only [List.map_append, List.map_cons, List.map_nil]
    refine List.Perm.trans ?_ (hperm.trans h.numbers)
    rw [← List.append_assoc]
    exact List.perm_append_comm

end Numbered

end Ledger

namespace Site

variable {σ : Type} {calls : StoreCalls σ}

theorem numbered_opened (settings : Settings) (store : σ) :
    (opened (Engine.idle settings) store).ledger.Numbered (Engine.idle settings) := by
  refine ⟨rfl, ?_, ?_⟩
  · simp [opened, Engine.idle, Worker.record?]
  · simp [opened]

/-- Every step keeps account of the numbers. -/
theorem numbered_step {s s' : Site σ} {a : Action} (h : s.ledger.Numbered s.engine)
    (step : Step calls s a s') : s'.ledger.Numbered s'.engine := by
  cases step with
  | accepted => exact h.accept _
  | dropped => exact h
  | turned stands _ before after => exact h.withWorker stands (after.trans before.symm)
  | took stands _ before next => exact h.take stands before next
  | @embedded index r d v stands =>
      have moved : s.ledger.Numbered (s.engine.withWorker index (.storing r v d)) :=
        h.withWorker stands rfl
      exact moved.call _ _
  | notEmbedded stands =>
      obtain ⟨n, hand, -⟩ := h.inHand stands rfl
      exact (h.call _ _).finish (by simpa using hand)
  | wrote stands =>
      obtain ⟨n, hand, -⟩ := h.inHand stands rfl
      exact (h.call _ _).finish (by simpa using hand)
  | lookedUp => simpa using h
  | shutdown => exact ⟨h.order, h.held, h.numbers⟩
  | shutdownReturned => exact h

end Site

end AnswerGateway.Cache
