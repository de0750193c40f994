import AnswerGateway.Store.Ensure
import Mathlib.Data.List.Basic

/-!
What the calls to a store in memory do to its collections. A point that is put into a collection
changes that collection only, by one point, and a call that is refused changes nothing. Once a
collection is there it stays, and every question to it is answered.
-/

namespace AnswerGateway.Store

theorem mem_putPoint {p q : Point} {points : List Point} (h : q ∈ putPoint p points) :
    q = p ∨ q ∈ points := by
  induction points with
  | nil => exact .inl (List.mem_singleton.mp h)
  | cons head rest ih =>
      unfold putPoint at h
      split at h
      · rcases List.mem_cons.mp h with rfl | later
        · exact .inl rfl
        · exact .inr (List.mem_cons_of_mem _ later)
      · rcases List.mem_cons.mp h with rfl | later
        · exact .inr List.mem_cons_self
        · exact (ih later).imp_right (List.mem_cons_of_mem _)

theorem putPoint_fresh {p : Point} {points : List Point} (fresh : p.id ∉ points.map Point.id) :
    putPoint p points = points ++ [p] := by
  induction points with
  | nil => rfl
  | cons head rest ih =>
      rw [List.map_cons, List.mem_cons, not_or] at fresh
      rw [putPoint, if_neg (Ne.symm fresh.1), ih fresh.2, List.cons_append]

namespace Memory

variable {m after : Memory} {name other : String} {p : Point} {q : Query}

/-- A change of one collection is found there and nowhere else. -/
theorem find?_update {f : Collection → Collection} (named : ∀ c, (f c).spec = c.spec) :
    (m.update name f).find? other =
      if other = name then (m.find? other).map f else m.find? other := by
  unfold update find?
  induction m.collections with
  | nil => simp
  | cons c rest ih =>
      rw [List.map_cons, List.find?_cons, List.find?_cons, ih]
      by_cases here : c.spec.name = name
      · by_cases sought : c.spec.name = other
        · have same : other = name := sought.symm.trans here
          simp [here, same, named]
        · have differs : ¬other = name := fun same => sought (here.trans same.symm)
          simp [here, named, differs, Ne.symm differs]
      · by_cases sought : c.spec.name = other
        · have differs : ¬other = name := fun same => here (sought.trans same)
          simp [sought, differs]
        · simp [here, sought]

/-- A point is put into its collection or, if that is refused, nothing changes. -/
theorem upsert_cases (m : Memory) (name : String) (p : Point) :
    (∃ f, m.upsert name p = (.error f, m)) ∨
      ∃ after, m.upsert name p = (.ok (), after) ∧
        (∀ other, after.holds other = m.holds other) ∧
        after.points name = putPoint p (m.points name) ∧
        ∀ other, other ≠ name → after.points other = m.points other := by
  unfold upsert
  cases found : m.find? name with
  | none => exact .inl ⟨_, rfl⟩
  | some c =>
      by_cases fits : p.vector.length = c.spec.dimensions
      · right
        let put (c : Collection) : Collection := { c with points := putPoint p c.points }
        have update (other : String) : (m.update name put).find? other =
            if other = name then (m.find? other).map put else m.find? other :=
          find?_update fun _ => rfl
        refine ⟨_, if_pos fits, ?_, ?_, ?_⟩
        · intro other
          rw [holds, holds, update]
          split <;> simp
        · rw [points, points, update, if_pos rfl, found]
          rfl
        · intro other differs
          rw [points, points, update, if_neg differs]
      · exact .inl ⟨_, if_neg fits⟩

theorem query_of_holds (there : m.holds name = true) :
    m.query name q = .ok (q.answer (m.points name)) := by
  obtain ⟨c, found⟩ := Option.isSome_iff_exists.mp there
  rw [query, points, found]
  rfl

theorem points_of_absent (absent : m.holds name = false) : m.points name = [] := by
  have missing : m.find? name = none := by simpa [holds] using absent
  rw [points, missing]
  rfl

/-- A new collection is empty, so no collection has other points than before. -/
theorem points_append (m : Memory) (spec : CollectionSpec) (calls : Nat) (name : String) :
    points { collections := m.collections ++ [⟨spec, []⟩], createCalls := calls } name =
      m.points name := by
  rw [points, points, find?, find?, List.find?_append]
  cases m.collections.find? fun c => decide (c.spec.name = name) with
  | some c => rfl
  | none =>
      by_cases here : spec.name = name
      · simp [here]
      · simp [here]

theorem create_missing {spec : CollectionSpec} (missing : m.holds spec.name = false) :
    m.create spec = (.ok (),
      { collections := m.collections ++ [⟨spec, []⟩], createCalls := m.createCalls + 1 }) := by
  have still : holds { m with createCalls := m.createCalls + 1 } spec.name = false := missing
  rw [create, if_neg (Bool.not_eq_true _ ▸ still)]

theorem step_looking (m : Memory) (spec : CollectionSpec) :
    (Ensure.step calls spec .looking).run m =
      pure (Ensure.looked (.ok (m.holds spec.name)) .looking, m) := rfl

theorem step_creating (m : Memory) (spec : CollectionSpec) :
    (Ensure.step calls spec .creating).run m =
      pure (Ensure.created (m.create spec).1 .creating, (m.create spec).2) := rfl

theorem step_finished (m : Memory) (spec : CollectionSpec) (result : Except Fault Bool) :
    (Ensure.step calls spec (.finished result)).run m = pure (.finished result, m) := rfl

/-- To make sure of a collection is to create it if it is missing. -/
theorem run_ensure (m : Memory) (spec : CollectionSpec) :
    (Ensure.run calls spec).run m =
      if m.holds spec.name then (.ok false, m)
      else (.ok true,
        { collections := m.collections ++ [⟨spec, []⟩], createCalls := m.createCalls + 1 }) := by
  cases there : m.holds spec.name with
  | true =>
      simp only [Ensure.run, StateT.run_bind, step_looking, there, Ensure.looked, pure_bind,
        step_finished]
      rfl
  | false =>
      simp only [Ensure.run, StateT.run_bind, step_looking, there, Ensure.looked, pure_bind,
        step_creating, create_missing there, Ensure.created, step_finished]
      rfl

/-- Once it is made sure of, a collection is there, and no collection has other points. -/
theorem holds_of_ensure {spec : CollectionSpec} {created : Bool}
    (h : (Ensure.run calls spec).run m = (.ok created, after)) :
    after.holds spec.name = true ∧ ∀ name, after.points name = m.points name := by
  rw [run_ensure] at h
  split at h
  · rename_i there
    cases h
    exact ⟨there, fun name => rfl⟩
  · cases h
    refine ⟨?_, points_append m spec _⟩
    simp [holds, find?]

end Memory

end AnswerGateway.Store
