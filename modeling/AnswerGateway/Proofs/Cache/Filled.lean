import AnswerGateway.Proofs.Cache.Ledger
import AnswerGateway.Proofs.Cache.Start
import AnswerGateway.Proofs.Store.Memory

/-!
What a cache over a store in memory can find. The store holds nothing but points of accepted
records, so whatever a lookup finds, and however like the question it is, is the response of an
accepted record of the model that was asked for.
-/

namespace AnswerGateway

namespace Store

/-- An answer consists of points that satisfy the filter, whatever they score. -/
theorem Query.mem_answer {q : Query} {points : List Point} {found : ScoredPoint}
    (h : found ∈ q.answer points) :
    ∃ p ∈ points, p.payload = found.payload ∧ q.filter.holds p.payload = true := by
  have hscored : found ∈ q.scored points := by
    have hsorted := List.mem_of_mem_take h
    rw [List.mem_mergeSort] at hsorted
    exact (List.mem_filter.mp hsorted).1
  obtain ⟨p, hp, rfl⟩ := List.mem_map.mp hscored
  obtain ⟨member, holds⟩ := List.mem_filter.mp hp
  exact ⟨p, member, rfl, holds⟩

namespace Memory

def Keeps (m : Memory) (p : Point) : Prop := ∃ c ∈ m.collections, p ∈ c.points

theorem mem_points {m : Memory} {name : String} {c : Collection} {p : Point}
    (found : m.find? name = some c) (member : p ∈ c.points) : m.Keeps p :=
  ⟨c, List.mem_of_find?_eq_some found, member⟩

theorem keeps_upsert {m : Memory} {name : String} {p q : Point}
    (h : (m.upsert name p).2.Keeps q) : q = p ∨ m.Keeps q := by
  unfold upsert at h
  split at h
  · exact .inr h
  · split at h
    · obtain ⟨c, hc, hq⟩ := h
      obtain ⟨before, hbefore, rfl⟩ := List.mem_map.mp hc
      split at hq
      · exact (mem_putPoint hq).imp_right fun old => ⟨before, hbefore, old⟩
      · exact .inr ⟨before, hbefore, hq⟩
    · exact .inr h

theorem mem_query {m : Memory} {name : String} {q : Query} {points : List ScoredPoint}
    {found : ScoredPoint} (h : m.query name q = .ok points) (member : found ∈ points) :
    ∃ p, m.Keeps p ∧ p.payload = found.payload ∧ q.filter.holds p.payload = true := by
  unfold query at h
  split at h
  · cases h
  · rename_i c hfind
    cases h
    obtain ⟨p, hp, payload, holds⟩ := Query.mem_answer member
    exact ⟨p, mem_points hfind hp, payload, holds⟩

theorem ensure_empty (spec : CollectionSpec) :
    (Ensure.run calls spec).run {} =
      (.ok true, { collections := [⟨spec, []⟩], createCalls := 1 }) :=
  rfl

end Memory

end Store

namespace Cache

namespace Engine

variable (id : String) (time : Json) (r : Record) (v : Vector)

@[simp]
theorem pointOf_answer : (pointOf id time r v).payload.text? "answer" = some r.response := rfl

@[simp]
theorem pointOf_model : (pointOf id time r v).payload.text? "model" = some r.model := rfl

theorem resultOf_hit {points : List Store.ScoredPoint} (hit : (resultOf points).hit = true) :
    ∃ found ∈ points, found.payload.text? "answer" = some (resultOf points).answer := by
  unfold resultOf at hit ⊢
  split at hit
  · rename_i answer h
    obtain ⟨found, hfound, htext⟩ := Option.bind_eq_some_iff.mp h
    exact ⟨found, List.mem_of_head? hfound, by simpa [h, LookupResult.found] using htext⟩
  · cases hit

end Engine

namespace Site

theorem accepted_of_not_offer {σ : Type} {calls : StoreCalls σ} {s s' : Site σ} {a : Action}
    (step : Step calls s a s') (other : ∀ r, a ≠ .offer r) :
    s'.ledger.accepted = s.ledger.accepted := by
  cases step with
  | accepted | dropped => exact absurd rfl (other _)
  | lookedUp | embedded | notEmbedded | wrote => simp
  | turned | took | shutdown | shutdownReturned => rfl

theorem mem_accepted_offer {σ : Type} {s : Site σ} {r other : Record}
    (member : other ∈ (s.offer r).2.ledger.accepted) :
    other ∈ s.ledger.accepted ∨ other = r := by
  simp only [offer] at member
  split at member
  · simpa [Ledger.accept] using member
  · exact .inl member

/-- The store holds nothing but points of accepted records. -/
def Filled (s : Site Store.Memory) : Prop :=
  ∀ p, s.store.Keeps p →
    ∃ r ∈ s.ledger.accepted, ∃ id time v, p = Engine.pointOf id time r v

theorem filled_step {s s' : Site Store.Memory} {a : Action} (h : s.Filled)
    (numbered : s.ledger.Numbered s.engine) (step : Step .memory s a s') : s'.Filled := by
  cases step with
  | accepted =>
      intro p keeps
      obtain ⟨r, member, point⟩ := h p keeps
      exact ⟨r, List.mem_append_left _ member, point⟩
  | @wrote index r v d id time stands =>
      intro p keeps
      obtain ⟨n, -, htaken⟩ := numbered.inHand stands rfl
      rcases Store.Memory.keeps_upsert keeps with rfl | before
      · refine ⟨r, ?_, id, time, v, rfl⟩
        simp only [Ledger.accepted_finish, Ledger.accepted_call, numbered.order]
        exact List.mem_append_left _ (List.mem_of_getElem? htaken)
      · simpa using h p before
  | @lookedUp question vector =>
      cases vector with
      | error => exact h
      | ok v => exact h
  | embedded | notEmbedded => simpa [Filled] using h
  | dropped | turned | took | shutdown | shutdownReturned => exact h

/-- What a lookup finds is the response of an accepted record of the same model. -/
theorem lookup_found {s : Site Store.Memory} {question : LookupRequest}
    {vector : Except Fault Vector} {found : LookupResult} (h : s.Filled)
    (answered : (s.lookup .memory question vector).1 = .ok found) (hit : found.hit = true) :
    ∃ r ∈ s.ledger.accepted, r.response = found.answer ∧ r.model = question.model := by
  cases vector with
  | error f => cases answered
  | ok v =>
      simp only [lookup, StoreCalls.memory] at answered
      cases hquery : s.store.query s.engine.collection (s.engine.lookupQuery question.model v) with
      | error f =>
          rw [hquery] at answered
          cases answered
      | ok points =>
          rw [hquery] at answered
          obtain rfl : Engine.resultOf points = found := by simpa [Except.map] using answered
          obtain ⟨scored, member, htext⟩ := Engine.resultOf_hit hit
          obtain ⟨p, keeps, payload, holds⟩ := Store.Memory.mem_query hquery member
          obtain ⟨r, accepted, id, time, w, rfl⟩ := h p keeps
          rw [← payload, Engine.pointOf_answer, Option.some.injEq] at htext
          refine ⟨r, accepted, htext, ?_⟩
          simpa [Engine.lookupQuery, Store.Filter.must, Store.Filter.holds] using holds

end Site

end Cache

end AnswerGateway
