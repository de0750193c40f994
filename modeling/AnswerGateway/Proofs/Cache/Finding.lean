import AnswerGateway.Proofs.Cache.Entries
import AnswerGateway.Proofs.Cache.Schedule
import AnswerGateway.Proofs.Store.Best

/-!
What a lookup finds. The collection of an engine holds entries, and a lookup answers with the first
of the best of those that are of the model and reach the threshold. It is a miss only if there is no
such entry, and a failure of the embedder or of the store is never taken for one.
-/

namespace AnswerGateway.Cache

open Store

namespace Entry

def score (v : Vector) (e : Entry) : Float32 := v.cosine e.vector

/-- Whether an entry can be the answer to a question. -/
def matching (threshold : Float32) (model : String) (v : Vector) (e : Entry) : Bool :=
  decide (threshold ≤ e.score v) && e.record.model == model

theorem matching_iff {threshold : Float32} {model : String} {v : Vector} {e : Entry} :
    e.matching threshold model v = true ↔ e.record.model = model ∧ threshold ≤ e.score v := by
  rw [matching, Bool.and_eq_true, decide_eq_true_eq, beq_iff_eq, and_comm]

theorem admits_point (engine : Engine) (model : String) (v : Vector) (e : Entry) :
    (engine.lookupQuery model v).admits e.point = e.matching engine.threshold model v := by
  have holds : (engine.lookupQuery model v).filter.holds e.point.payload =
      (e.record.model == model) := by
    simp [Engine.lookupQuery, Filter.must, Filter.holds, point]
  rw [Query.admits, holds]
  rfl

/-- The first answer of the store is the best entry, unless no entry matches. -/
theorem head_answer (engine : Engine) (model : String) (v : Vector) (entries : List Entry) :
    (∃ e, FirstBest (score v) (entries.filter (matching engine.threshold model v)) e ∧
      Engine.resultOf ((engine.lookupQuery model v).answer (entries.map point)) =
        .found e.record.response) ∨
    entries.filter (matching engine.threshold model v) = [] ∧
      Engine.resultOf ((engine.lookupQuery model v).answer (entries.map point)) = .miss := by
  have admitted : (entries.map point).filter (engine.lookupQuery model v).admits =
      (entries.filter (matching engine.threshold model v)).map point := by
    rw [List.filter_map]
    congr 2
    funext e
    exact admits_point engine model v e
  rcases (engine.lookupQuery model v).head_answer Nat.one_pos (entries.map point) with
    ⟨p, best, head⟩ | ⟨none, head⟩
  · left
    rw [admitted] at best
    obtain ⟨e, rfl, first⟩ := best.of_map
    refine ⟨e, first, ?_⟩
    rw [Engine.resultOf, head]
    rfl
  · right
    rw [admitted, List.map_eq_nil_iff] at none
    refine ⟨none, ?_⟩
    rw [Engine.resultOf, head]
    rfl

end Entry

namespace Site

variable {s : Site Memory}

theorem lookup_of_holds (question : LookupRequest) (v : Vector)
    (there : s.store.holds s.engine.collection = true) :
    (s.lookup .memory question (.ok v)).1 =
      .ok (Engine.resultOf ((s.engine.lookupQuery question.model v).answer
        (s.store.points s.engine.collection))) := by
  simp only [lookup, StoreCalls.memory, Memory.query_of_holds there, Except.map]

/-- A lookup answers with the best entry, or it is a miss because no entry matches. -/
theorem lookup_entries {entries : List Entry}
    (there : s.store.holds s.engine.collection = true)
    (points : s.store.points s.engine.collection = entries.map Entry.point)
    (question : LookupRequest) (v : Vector) :
    (∃ e, FirstBest (Entry.score v)
        (entries.filter (Entry.matching s.engine.threshold question.model v)) e ∧
      (s.lookup .memory question (.ok v)).1 = .ok (.found e.record.response)) ∨
    (∀ e ∈ entries, ¬(e.record.model = question.model ∧ s.engine.threshold ≤ e.score v)) ∧
      (s.lookup .memory question (.ok v)).1 = .ok .miss := by
  rw [lookup_of_holds question v there, points]
  rcases Entry.head_answer s.engine question.model v entries with ⟨e, best, found⟩ | ⟨none, missed⟩
  · left
    exact ⟨e, best, congrArg Except.ok found⟩
  · right
    refine ⟨fun e member matching => ?_, congrArg Except.ok missed⟩
    exact List.filter_eq_nil_iff.mp none e member (Entry.matching_iff.mpr matching)

/-- What lookups of a question come to when the collection holds these entries. -/
structure Finds (s : Site Memory) (threshold : Float32) (entries : List Entry)
    (question : LookupRequest) : Prop where
  /-- A lookup is a hit exactly if an entry of the model reaches the threshold. -/
  hit : ∀ v, (∃ found, (s.lookup .memory question (.ok v)).1 = .ok found ∧ found.hit = true) ↔
    ∃ e ∈ entries, e.record.model = question.model ∧ threshold ≤ e.score v
  /-- Its answer is that of the first of the best of these. -/
  answer : ∀ v found, (s.lookup .memory question (.ok v)).1 = .ok found → found.hit = true →
    ∃ e, FirstBest (Entry.score v)
        (entries.filter (Entry.matching threshold question.model v)) e ∧
      found.answer = e.record.response
  miss : ∀ v,
    (¬∃ e ∈ entries, e.record.model = question.model ∧ threshold ≤ e.score v) →
    (s.lookup .memory question (.ok v)).1 = .ok .miss
  notEmbedded : ∀ f, s.lookup .memory question (.error f) =
    (.error f, { s with metrics := s.metrics.record (.lookup .error) })
  /-- What a store that refuses to be asked makes of it. -/
  notQueried : ∀ (faults : StoreFaults) f v, faults.query = some f →
    s.lookup faults.storeCalls question (.ok v) =
      (.error f, { s with metrics := s.metrics.record (.lookup .error) })
  /-- A lookup changes nothing but the counters. -/
  quiet : ∀ vector, ∃ metrics, (s.lookup .memory question vector).2 = { s with metrics }
  /-- What the collection holds of other models makes no difference. -/
  apart : ∀ (other : Site Memory) v, other.engine = s.engine →
    other.store.holds s.engine.collection = true →
    (other.store.points s.engine.collection).filter
        (fun p => p.payload.text? "model" == some question.model) =
      (s.store.points s.engine.collection).filter
        (fun p => p.payload.text? "model" == some question.model) →
    (other.lookup .memory question (.ok v)).1 = (s.lookup .memory question (.ok v)).1

theorem finds_of_entries {entries : List Entry}
    (there : s.store.holds s.engine.collection = true)
    (points : s.store.points s.engine.collection = entries.map Entry.point)
    (question : LookupRequest) : s.Finds s.engine.threshold entries question where
  hit v := by
    rcases lookup_entries there points question v with ⟨e, best, found⟩ | ⟨none, missed⟩
    · have matching := List.mem_filter.mp best.mem
      constructor
      · intro _
        exact ⟨e, matching.1, Entry.matching_iff.mp matching.2⟩
      · intro _
        exact ⟨_, found, rfl⟩
    · constructor
      · rintro ⟨found, answered, hit⟩
        rw [missed] at answered
        cases answered
        cases hit
      · rintro ⟨e, member, matching⟩
        exact absurd matching (none e member)
  answer v found answered hit := by
    rcases lookup_entries there points question v with ⟨e, best, answered'⟩ | ⟨-, missed⟩
    · rw [answered'] at answered
      cases answered
      exact ⟨e, best, rfl⟩
    · rw [missed] at answered
      cases answered
      cases hit
  miss v none := by
    rcases lookup_entries there points question v with ⟨e, best, -⟩ | ⟨-, missed⟩
    · have matching := List.mem_filter.mp best.mem
      exact absurd ⟨e, matching.1, Entry.matching_iff.mp matching.2⟩ none
    · exact missed
  notEmbedded f := rfl
  notQueried faults f v refused := by
    simp only [lookup, StoreFaults.storeCalls, refused, orRefuse]
    rfl
  quiet vector := by
    cases vector with
    | error f => exact ⟨_, rfl⟩
    | ok v => exact ⟨_, rfl⟩
  apart other v same there' agree := by
    have asked (points : List Point) :
        (s.engine.lookupQuery question.model v).scored points =
          (s.engine.lookupQuery question.model v).scored
            (points.filter fun p => p.payload.text? "model" == some question.model) := by
      simp [Query.scored, Engine.lookupQuery, Filter.must, Filter.holds]
    rw [← same] at there'
    rw [lookup_of_holds question v there, lookup_of_holds question v there', same, Query.answer,
      Query.answer, asked, agree, ← asked]

/-- Whatever has happened since an engine was started, its lookups find the best of the entries of
the model, whether they were in its collection from the start or its workers have stored them. -/
theorem run_finds {settings : Settings} {dimensions : Nat} {before store : Memory} {engine : Engine}
    {created : Bool} {initial : List Entry} {actions : List Action} {s : Site Memory}
    (started : (Engine.start Memory.calls settings dimensions).run before =
      (.ok (engine, created), store))
    (filled : before.points settings.collection = initial.map Entry.point)
    (run : (opened engine store).run? .memory actions = some s) :
    ∃ entries : List Entry,
      s.store.points settings.collection = entries.map Entry.point ∧
      s.store.points settings.collection = s.ledger.stored.foldl
        (fun points p => putPoint p points) (initial.map Entry.point) ∧
      (∀ e ∈ entries, e ∈ initial ∨ s.ledger.Stores settings.collection e) ∧
      ∀ question, s.Finds settings.threshold entries question := by
  obtain ⟨kept, stocked⟩ := stocked_run started run
  rw [filled] at stocked
  obtain ⟨entries, points, origin⟩ := stocked.exists_entries kept
  refine ⟨entries, points, stocked.points, origin, ?_⟩
  intro question
  rw [← kept.collection] at points
  have there := stocked.there
  rw [← kept.collection] at there
  rw [← stocked.threshold]
  exact finds_of_entries there points question

/-- The small cache finds the one answer that it has stored. -/
theorem run_finds_small :
    ∃ s, (opened (Engine.idle .small) Settings.smallStore).run? .memory smallRun = some s ∧
      (s.lookup .memory ⟨"question", "model"⟩ (.ok [1])).1 = .ok (.found "answer") ∧
      ∃ entries : List Entry,
        s.store.points "answers" = entries.map Entry.point ∧
        s.store.points "answers" = s.ledger.stored.foldl (fun points p => putPoint p points) [] ∧
        (∀ e ∈ entries, e ∈ [] ∨ s.ledger.Stores "answers" e) ∧
        ∀ question, s.Finds 0.95 entries question := by
  have happens : ((opened (Engine.idle .small) Settings.smallStore).run? .memory smallRun).map
      (fun s => (s.lookup .memory ⟨"question", "model"⟩ (.ok [1])).1.toOption) =
        some (some (.found "answer")) := by
    decide +kernel
  obtain ⟨s, run, found⟩ := Option.map_eq_some_iff.mp happens
  have empty : ({} : Memory).points "answers" = ([] : List Entry).map Entry.point := rfl
  refine ⟨s, run, ?_, run_finds Engine.start_small empty run⟩
  cases answered : (s.lookup .memory ⟨"question", "model"⟩ (.ok [1])).1 with
  | error f =>
      rw [answered] at found
      cases found
  | ok result =>
      rw [answered] at found
      exact congrArg Except.ok (Option.some.inj found)

end Site

end AnswerGateway.Cache
