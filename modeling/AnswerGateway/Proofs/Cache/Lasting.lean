import AnswerGateway.Proofs.Cache.Finding

/-!
What a cache has found once, it keeps finding. Points that come under ids of their own are put
behind those that are there, so the collection of an engine only grows. The first of the best of a
longer collection is the one that it was, or a new one with a greater score.
-/

namespace AnswerGateway

namespace Store

/-- Points with ids of their own are added one after the other. -/
theorem foldl_putPoint_fresh {added points : List Point}
    (distinct : ((points ++ added).map Point.id).Nodup) :
    added.foldl (fun points p => putPoint p points) points = points ++ added := by
  induction added generalizing points with
  | nil => rw [List.foldl_nil, List.append_nil]
  | cons p rest ih =>
      have regroup : points ++ p :: rest = (points ++ [p]) ++ rest := by
        rw [List.append_assoc, List.singleton_append]
      have fresh : p.id ∉ points.map Point.id := by
        rw [List.map_append, List.map_cons, List.nodup_append] at distinct
        intro known
        exact distinct.2.2 p.id known p.id List.mem_cons_self rfl
      rw [regroup] at distinct
      rw [List.foldl_cons, putPoint_fresh fresh, ih distinct, regroup]

end Store

namespace Cache

open Store

/-- What an embedding was answered with. -/
def Call.vector? : Call → Option Vector
  | .embed _ (.ok v) => some v
  | _ => none

namespace Ledger

theorem mem_calls {l : Ledger} {n : Nat} {c : Call} (made : c ∈ l.callsOf n) :
    (n, c) ∈ l.calls := by
  obtain ⟨⟨m, c'⟩, member, own⟩ := List.mem_filterMap.mp made
  by_cases same : m = n
  · rw [if_pos same] at own
    cases own
    rw [← same]
    exact member
  · rw [if_neg same] at own
    cases own

theorem mem_stored {l : Ledger} {n : Nat} {collection : String} {p : Point}
    (made : .upsert collection p (.ok ()) ∈ l.callsOf n) : p ∈ l.stored :=
  List.mem_filterMap.mpr ⟨_, mem_calls made, rfl⟩

/-- A record whose writing has ended well is an entry among what the store has taken. -/
theorem Called.exists_entry {l : Ledger} {e : Engine} {n : Nat} {r : Record}
    (called : l.Called e) (numbered : l.Numbered e) (ended : (n, .stored) ∈ l.ended)
    (accepted : l.accepted[n]? = some r) :
    ∃ entry : Entry, entry.record = r ∧ entry.point ∈ l.stored ∧
      (n, .embed r.prompt (.ok entry.vector)) ∈ l.calls := by
  obtain ⟨r', taken, written⟩ := called.written n .stored ended
  rw [← numbered.accepted_getElem? (numbered.lt_of_ended ended), accepted] at taken
  obtain rfl : r = r' := Option.some.inj taken
  generalize made : l.callsOf n = calls at written
  cases written with
  | @stored v _ carries =>
      obtain ⟨id, time, rfl⟩ := carries.eq_pointOf
      refine ⟨⟨id, time, r, v⟩, rfl, ?_, ?_⟩
      · apply mem_stored
        rw [made]
        exact List.mem_cons_of_mem _ List.mem_cons_self
      · apply mem_calls
        rw [made]
        exact List.mem_cons_self

end Ledger

namespace Site

variable {s s' : Site Memory} {a : Action} {question : LookupRequest} {v : Vector}

/-- A lookup of a question with this vector gives the response of this entry, the first of the best
in the collection. -/
def Gives (s : Site Memory) (question : LookupRequest) (v : Vector) (e : Entry) : Prop :=
  ∃ entries : List Entry, s.store.points s.engine.collection = entries.map Entry.point ∧
    FirstBest (Entry.score v)
      (entries.filter (Entry.matching s.engine.threshold question.model v)) e ∧
    (s.lookup .memory question (.ok v)).1 = .ok (.found e.record.response)

/-- What a run adds to the points that the store has taken; their ids are those of its actions. -/
theorem stored_run {actions : List Action} (numbered : s.ledger.Numbered s.engine)
    (run : s.run? .memory actions = some s') :
    ∃ added, s'.ledger.stored = s.ledger.stored ++ added ∧
      (added.map Point.id).Sublist (actions.filterMap Action.pointId?) := by
  have kept : s'.ledger.Numbered s'.engine ∧
      ∃ added, s'.ledger.stored = s.ledger.stored ++ added ∧
        (added.map Point.id).Sublist (actions.filterMap Action.pointId?) := by
    refine run_induction (motive := fun actions s' => s'.ledger.Numbered s'.engine ∧
      ∃ added, s'.ledger.stored = s.ledger.stored ++ added ∧
        (added.map Point.id).Sublist (actions.filterMap Action.pointId?)) ?_ ?_ run
    · exact ⟨numbered, [], (List.append_nil _).symm, List.nil_sublist _⟩
    · rintro actions now a next ⟨numbered, added, grown, ids⟩ step
      obtain ⟨more, grows, id, -⟩ := stored_step numbered step
      refine ⟨numbered_step numbered step, added ++ more, ?_, ?_⟩
      · rw [grows, grown, List.append_assoc]
      · rw [List.map_append, List.filterMap_append]
        apply ids.append
        cases h : a.pointId? <;> simpa [h] using id
  exact kept.2

theorem run_append {start : Site Memory} {actions later : List Action}
    (run : start.run? .memory actions = some s) (goesOn : s.run? .memory later = some s') :
    start.run? .memory (actions ++ later) = some s' := by
  rw [run?, Trace.run?_append]
  exact Option.bind_eq_some_iff.mpr ⟨s, run, goesOn⟩

section Started

variable {settings : Settings} {dimensions : Nat} {before store : Memory} {engine : Engine}
  {created : Bool} {initial : List Entry} {actions later : List Action}

/-- With ids of their own, the points that the store has taken stand behind those of the start. -/
theorem points_fresh
    (started : (Engine.start Memory.calls settings dimensions).run before =
      (.ok (engine, created), store))
    (filled : before.points settings.collection = initial.map Entry.point)
    (distinct : (initial.map Entry.id ++ actions.filterMap Action.pointId?).Nodup)
    (run : (opened engine store).run? .memory actions = some s) :
    s.store.points settings.collection = initial.map Entry.point ++ s.ledger.stored := by
  obtain ⟨-, stocked⟩ := stocked_run started run
  have idle := (Engine.start_eq_ok started).2.2.1
  obtain ⟨taken, all, ids⟩ := stored_run (idle ▸ numbered_opened settings store) run
  have own : ((initial.map Entry.point ++ s.ledger.stored).map Point.id).Nodup := by
    apply List.Sublist.nodup ?_ distinct
    rw [all, List.map_append, List.map_map]
    exact (List.Sublist.refl _).append ids
  rw [stocked.points, filled, foldl_putPoint_fresh own]

/-- Later points stand behind the earlier ones. -/
theorem points_later
    (started : (Engine.start Memory.calls settings dimensions).run before =
      (.ok (engine, created), store))
    (filled : before.points settings.collection = initial.map Entry.point)
    (distinct : (initial.map Entry.id ++ (actions ++ later).filterMap Action.pointId?).Nodup)
    (run : (opened engine store).run? .memory actions = some s)
    (goesOn : s.run? .memory later = some s') :
    ∃ more : List Entry, s'.store.points settings.collection =
      s.store.points settings.collection ++ more.map Entry.point := by
  have whole := run_append run goesOn
  have points' := points_fresh started filled distinct whole
  rw [List.filterMap_append, ← List.append_assoc] at distinct
  have points := points_fresh started filled (List.nodup_append.mp distinct).1 run
  obtain ⟨kept, -⟩ := stocked_run started run
  obtain ⟨added, grown, -⟩ := stored_run kept.numbered goesOn
  obtain ⟨kept', stocked'⟩ := stocked_run started whole
  rw [filled] at stocked'
  obtain ⟨entries, places, -⟩ := stocked'.exists_entries kept'
  rw [places, grown, ← List.append_assoc, ← points] at points'
  obtain ⟨-, more, -, -, rfl⟩ := List.map_eq_append_iff.mp points'
  exact ⟨more, places.trans points'⟩

end Started

/-- In a longer collection the same entry is the best, or a new one that is better. -/
theorem Gives.lasts {e : Entry} {more : List Entry} (h : s.Gives question v e)
    (engine : s'.engine.collection = s.engine.collection ∧
      s'.engine.threshold = s.engine.threshold)
    (there : s'.store.holds s.engine.collection = true)
    (points : s'.store.points s.engine.collection =
      s.store.points s.engine.collection ++ more.map Entry.point) :
    ∃ e', s'.Gives question v e' ∧
      (e' = e ∨ e'.record.model = question.model ∧ e.score v < e'.score v) := by
  obtain ⟨entries, places, best, -⟩ := h
  obtain ⟨collection, threshold⟩ := engine
  rw [places, ← List.map_append, ← collection] at points
  rw [← collection] at there
  rcases lookup_entries there points question v with ⟨e', best', found⟩ | ⟨none, -⟩
  · refine ⟨e', ⟨entries ++ more, points, best', found⟩, ?_⟩
    rw [threshold, List.filter_append] at best'
    rcases best.append best' with same | ⟨new, better⟩
    · exact .inl same
    · have matching := (List.mem_filter.mp new).2
      exact .inr ⟨(Entry.matching_iff.mp matching).1, better⟩
  · obtain ⟨member, matching⟩ := List.mem_filter.mp best.mem
    rw [threshold] at none
    exact absurd (Entry.matching_iff.mp matching) (none e (List.mem_append_left more member))

theorem exists_gives {found : LookupResult}
    (there : s.store.holds s.engine.collection = true)
    {entries : List Entry}
    (points : s.store.points s.engine.collection = entries.map Entry.point)
    (answered : (s.lookup .memory question (.ok v)).1 = .ok found) (hit : found.hit = true) :
    ∃ e, s.Gives question v e ∧ found = .found e.record.response := by
  rcases lookup_entries there points question v with ⟨e, best, gives⟩ | ⟨-, missed⟩
  · refine ⟨e, ⟨entries, points, best, gives⟩, ?_⟩
    rw [gives] at answered
    cases answered
    rfl
  · rw [missed] at answered
    cases answered
    cases hit

/-- An entry that is enough like itself keeps its own question from being a miss. -/
theorem exists_gives_own {entries : List Entry} {e : Entry}
    (there : s.store.holds s.engine.collection = true)
    (points : s.store.points s.engine.collection = entries.map Entry.point)
    (kept : e.point ∈ s.store.points s.engine.collection)
    (alike : s.engine.threshold ≤ e.vector.cosine e.vector) :
    ∃ best, s.Gives ⟨e.record.prompt, e.record.model⟩ e.vector best := by
  rw [points] at kept
  obtain ⟨e', member, same⟩ := List.mem_map.mp kept
  have vector : e'.vector = e.vector := congrArg Point.vector same
  have model : e'.record.model = e.record.model := by
    have text := congrArg (fun p => p.payload.text? "model") same
    simpa [Entry.point] using text
  rcases lookup_entries there points ⟨e.record.prompt, e.record.model⟩ e.vector with
    ⟨best, first, found⟩ | ⟨none, -⟩
  · exact ⟨best, entries, points, first, found⟩
  · refine absurd ⟨model, ?_⟩ (none e' member)
    rw [Entry.score, vector]
    exact alike

/-- A question that was answered with an entry stays answered, with the same entry or with a better
one. In particular, once the answer to a question was stored, and if the question is enough like
itself, it is found from then on. -/
theorem run_lasting {settings : Settings} {dimensions : Nat} {before store : Memory}
    {engine : Engine} {created : Bool} {initial : List Entry} {actions later : List Action}
    {embed : String → Vector}
    (started : (Engine.start Memory.calls settings dimensions).run before =
      (.ok (engine, created), store))
    (filled : before.points settings.collection = initial.map Entry.point)
    (distinct : (initial.map Entry.id ++ (actions ++ later).filterMap Action.pointId?).Nodup)
    (run : (opened engine store).run? .memory actions = some s)
    (goesOn : s.run? .memory later = some s')
    (steady : ∀ n text v, (n, .embed text (.ok v)) ∈ s.ledger.calls → v = embed text) :
    (∀ question found,
      (s.lookup .memory question (.ok (embed question.prompt))).1 = .ok found → found.hit = true →
      ∃ e e', s.Gives question (embed question.prompt) e ∧ found = .found e.record.response ∧
        s'.Gives question (embed question.prompt) e' ∧
        (e' = e ∨ e'.record.model = question.model ∧
          e.score (embed question.prompt) < e'.score (embed question.prompt))) ∧
    ∀ n r, (n, .stored) ∈ s.ledger.ended → s.ledger.accepted[n]? = some r →
      settings.threshold ≤ (embed r.prompt).cosine (embed r.prompt) →
      ∃ e, s'.Gives ⟨r.prompt, r.model⟩ (embed r.prompt) e := by
  obtain ⟨more, grown⟩ := points_later started filled distinct run goesOn
  obtain ⟨kept, stocked⟩ := stocked_run started run
  obtain ⟨kept', stocked'⟩ := stocked_run started (run_append run goesOn)
  have same : s'.engine.collection = s.engine.collection ∧
      s'.engine.threshold = s.engine.threshold :=
    ⟨kept'.collection.trans kept.collection.symm, stocked'.threshold.trans stocked.threshold.symm⟩
  have there := stocked.there
  have there' := stocked'.there
  rw [filled] at stocked
  obtain ⟨entries, points, -⟩ := stocked.exists_entries kept
  rw [← kept.collection] at there there' grown points
  constructor
  · intro question found answered hit
    obtain ⟨e, gives, rfl⟩ := exists_gives there points answered hit
    obtain ⟨e', gives', better⟩ := gives.lasts same there' grown
    exact ⟨e, e', gives, rfl, gives', better⟩
  · intro n r ended accepted alike
    obtain ⟨e, rfl, taken, embedded⟩ := kept.called.exists_entry kept.numbered ended accepted
    have vector := steady n e.record.prompt e.vector embedded
    have inside : e.point ∈ s.store.points s.engine.collection := by
      rw [List.filterMap_append, ← List.append_assoc] at distinct
      rw [kept.collection,
        points_fresh started filled (List.nodup_append.mp distinct).1 run]
      exact List.mem_append_right _ taken
    rw [← vector] at alike ⊢
    rw [← stocked.threshold] at alike
    obtain ⟨best, gives⟩ := exists_gives_own there points inside alike
    obtain ⟨best', gives', -⟩ := gives.lasts same there' grown
    exact ⟨best', gives'⟩

/-- An embedder that takes all texts for the same. -/
def smallEmbed (_ : String) : Vector := [1]

/-- In the small cache the one stored answer is found after a failure and after the shutdown. -/
theorem run_lasting_small :
    ∃ s s', (opened (Engine.idle .small) Settings.smallStore).run? .memory (smallRun.take 9) =
        some s ∧
      s.run? .memory (smallRun.drop 9) = some s' ∧
      ∃ e, s'.Gives ⟨"question", "model"⟩ [1] e := by
  have happens : ((opened (Engine.idle .small) Settings.smallStore).run? .memory
      (smallRun.take 9)).map (fun s => (s.ledger.ended, s.ledger.accepted[0]?, s.ledger.calls.all
        fun c => c.2.vector?.all fun v => decide (v = [1]))) =
        some ([(0, .stored)], some ⟨"question", "answer", "model", 0⟩, true) := by
    decide +kernel
  have goes : ((opened (Engine.idle .small) Settings.smallStore).run? .memory
      (smallRun.take 9 ++ smallRun.drop 9)).isSome = true := by
    decide +kernel
  obtain ⟨s, run, facts⟩ := Option.map_eq_some_iff.mp happens
  simp only [Prod.mk.injEq, List.all_eq_true] at facts
  obtain ⟨ended, accepted, steady⟩ := facts
  obtain ⟨s', whole⟩ := Option.isSome_iff_exists.mp goes
  rw [run?, Trace.run?_append] at whole
  obtain ⟨s₁, run₁, goesOn⟩ := Option.bind_eq_some_iff.mp whole
  obtain rfl : s = s₁ := Option.some.inj (run.symm.trans run₁)
  refine ⟨s, s', run, goesOn, ?_⟩
  have empty : ({} : Memory).points "answers" = ([] : List Entry).map Entry.point := rfl
  have embedded : ∀ n text v, (n, .embed text (.ok v)) ∈ s.ledger.calls →
      v = smallEmbed text := by
    intro n text v made
    exact of_decide_eq_true (steady _ made)
  have lasting := run_lasting Engine.start_small empty (by decide) run goesOn embedded
  exact lasting.2 0 _ (ended ▸ List.mem_singleton_self _) accepted (by decide +kernel)

end Site

end Cache

end AnswerGateway
