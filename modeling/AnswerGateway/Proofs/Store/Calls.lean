import AnswerGateway.Proofs.Store.Memory
import Mathlib.Data.List.Nodup

/-!
A store in memory under any series of calls. Its collections keep what they were created for and
only grow: a point that has come keeps its place, until one of the same id takes the place over. A
call that is refused changes no collection, and neither does one that only asks.
-/

namespace AnswerGateway.Store

/-- What can be asked of a store. -/
inductive Call where
  | look (name : String)
  | create (spec : CollectionSpec)
  | upsert (name : String) (p : Point)
  | query (name : String) (q : Query)

def Call.isQuestion : Call → Bool
  | .look _ | .query .. => true
  | .create _ | .upsert .. => false

inductive Answer where
  | there (holds : Bool)
  | done
  | found (points : List ScoredPoint)

/-- Whether a collection holds what it was created for, and one point under each id. -/
structure Collection.Sound (c : Collection) : Prop where
  distinct : (c.points.map Point.id).Nodup
  fits : ∀ p ∈ c.points, p.vector.length = c.spec.dimensions

/-- Whether a collection is an earlier one with points added or replaced. Every id that was there
is still there, at the same place. -/
structure Collection.Grown (c c' : Collection) : Prop where
  spec : c'.spec = c.spec
  ids : c.points.map Point.id <+: c'.points.map Point.id

section PutPoint

variable {p : Point} {points : List Point}

/-- An id that is there keeps its place, and a new one comes last. -/
theorem ids_putPoint (p : Point) (points : List Point) :
    (putPoint p points).map Point.id =
      if p.id ∈ points.map Point.id then points.map Point.id
      else points.map Point.id ++ [p.id] := by
  induction points with
  | nil => rfl
  | cons q rest ih =>
      by_cases same : q.id = p.id
      · simp [putPoint, same]
      · have other : ¬p.id = q.id := fun h => same h.symm
        rw [putPoint, if_neg same, List.map_cons, ih]
        by_cases later : p.id ∈ rest.map Point.id
        · simp [later]
        · simp [later, other]

theorem find?_putPoint (p : Point) (points : List Point) :
    (putPoint p points).find? (·.id = p.id) = some p := by
  induction points with
  | nil => simp [putPoint]
  | cons q rest ih =>
      by_cases same : q.id = p.id
      · simp [putPoint, same]
      · rw [putPoint, if_neg same, List.find?_cons]
        simpa [same] using ih

/-- A point takes the place of the one of the same id. -/
theorem putPoint_known {i : Nat} (distinct : (points.map Point.id).Nodup)
    (stands : (points.map Point.id)[i]? = some p.id) : putPoint p points = points.set i p := by
  induction points generalizing i with
  | nil => simp at stands
  | cons q rest ih =>
      rw [List.map_cons, List.nodup_cons] at distinct
      cases i with
      | zero =>
          have same : q.id = p.id := by simpa using stands
          rw [putPoint, if_pos same, List.set_cons_zero]
      | succ i =>
          have later : (rest.map Point.id)[i]? = some p.id := by simpa using stands
          have other : q.id ≠ p.id := by
            intro same
            rw [← same] at later
            exact distinct.1 (List.mem_of_getElem? later)
          rw [putPoint, if_neg other, ih distinct.2 later, List.set_cons_succ]

end PutPoint

namespace Collection

variable {c c' c'' : Collection} {p : Point}

theorem Grown.refl (c : Collection) : c.Grown c := ⟨rfl, List.prefix_refl _⟩

theorem Grown.trans (first : c.Grown c') (second : c'.Grown c'') : c.Grown c'' :=
  ⟨second.spec.trans first.spec, first.ids.trans second.ids⟩

/-- The collection with a point put into it. -/
def put (c : Collection) (p : Point) : Collection := { c with points := putPoint p c.points }

theorem grown_put (c : Collection) (p : Point) : c.Grown (c.put p) := by
  refine ⟨rfl, ?_⟩
  rw [put, ids_putPoint]
  split
  · exact List.prefix_refl _
  · exact List.prefix_append _ _

theorem Sound.put (sound : c.Sound) (fits : p.vector.length = c.spec.dimensions) :
    (c.put p).Sound := by
  constructor
  · rw [Collection.put, ids_putPoint]
    split
    · exact sound.distinct
    · rename_i fresh
      simpa using sound.distinct.concat fresh
  · intro q member
    rcases mem_putPoint member with rfl | before
    · exact fits
    · exact sound.fits q before

end Collection

namespace Memory

/-- The answer to a call, and the store behind it. -/
def answer (m : Memory) : Call → Except Fault Answer × Memory
  | .look name => (.ok (.there (m.holds name)), m)
  | .create spec => ((m.create spec).1.map fun _ => .done, (m.create spec).2)
  | .upsert name p => ((m.upsert name p).1.map fun _ => .done, (m.upsert name p).2)
  | .query name q => ((m.query name q).map .found, m)

def after (m : Memory) (calls : List Call) : Memory := calls.foldl (fun m c => (m.answer c).2) m

theorem after_append (m : Memory) (calls more : List Call) :
    m.after (calls ++ more) = (m.after calls).after more := by
  rw [after, after, after, List.foldl_append]

/-- Whether each name has one collection, and that is sound. -/
structure Sound (m : Memory) : Prop where
  names : (m.collections.map (·.spec.name)).Nodup
  each : ∀ c ∈ m.collections, c.Sound

/-- Whether every collection of a store is still in a later one. -/
def Grown (m m' : Memory) : Prop :=
  ∀ name c, m.find? name = some c → ∃ c', m'.find? name = some c' ∧ c.Grown c'

variable {m m' m'' : Memory} {name : String} {p : Point} {spec : CollectionSpec}

theorem Grown.refl (m : Memory) : m.Grown m := fun _ c found => ⟨c, found, .refl c⟩

theorem Grown.trans (first : m.Grown m') (second : m'.Grown m'') : m.Grown m'' := by
  intro name c found
  obtain ⟨c', found', grown⟩ := first name c found
  obtain ⟨c'', found'', grown'⟩ := second name c' found'
  exact ⟨c'', found'', grown.trans grown'⟩

theorem find?_spec {c : Collection} (found : m.find? name = some c) :
    c ∈ m.collections ∧ c.spec.name = name :=
  ⟨List.mem_of_find?_eq_some found, by simpa using List.find?_some found⟩

/-- Where each name has one collection, the one that is found is the only one. -/
theorem Sound.eq_of_name (sound : m.Sound) {c c' : Collection} (found : m.find? name = some c)
    (member : c' ∈ m.collections) (named : c'.spec.name = name) : c' = c := by
  obtain ⟨member', named'⟩ := find?_spec found
  exact List.inj_on_of_nodup_map sound.names member member' (named.trans named'.symm)

/-! What each call can do. -/

theorem create_cases (m : Memory) (spec : CollectionSpec) :
    (m.holds spec.name = true ∧ m.create spec =
        (.error (alreadyExists spec.name), { m with createCalls := m.createCalls + 1 })) ∨
      (m.find? spec.name = none ∧ m.create spec = (.ok (),
        { collections := m.collections ++ [⟨spec, []⟩], createCalls := m.createCalls + 1 })) := by
  cases there : m.holds spec.name with
  | true =>
      left
      have still : holds { m with createCalls := m.createCalls + 1 } spec.name = true := there
      exact ⟨rfl, by rw [create, if_pos still]⟩
  | false =>
      right
      exact ⟨by simpa [holds] using there, create_missing there⟩

/-- A point is put into a collection that there is and that it fits, and nowhere else. -/
theorem upsert_eq (m : Memory) (name : String) (p : Point) :
    m.upsert name p =
      match m.find? name with
      | none => (.error (notFound name), m)
      | some c =>
        if p.vector.length = c.spec.dimensions then (.ok (), m.update name (·.put p))
        else (.error (wrongLength c.spec.dimensions p.vector.length), m) := rfl

theorem upsert_ok_iff :
    m.upsert name p = (.ok (), m') ↔
      ∃ c, m.find? name = some c ∧ p.vector.length = c.spec.dimensions ∧
        m' = m.update name (·.put p) := by
  rw [upsert_eq]
  cases found : m.find? name with
  | none => simp
  | some c =>
      by_cases fits : p.vector.length = c.spec.dimensions
      · simp [fits, eq_comm]
      · simp [fits]

theorem upsert_error {f : Fault} (refused : m.upsert name p = (.error f, m')) : m' = m := by
  rw [upsert_eq] at refused
  split at refused
  · exact (Prod.mk.inj refused).2.symm
  · split at refused
    · cases (Prod.mk.inj refused).1
    · exact (Prod.mk.inj refused).2.symm

theorem find?_append_new (m : Memory) (spec : CollectionSpec) (calls : Nat) (name : String) :
    find? { collections := m.collections ++ [⟨spec, []⟩], createCalls := calls } name =
      (m.find? name).or (if spec.name = name then some ⟨spec, []⟩ else none) := by
  rw [find?, find?, List.find?_append]
  by_cases here : spec.name = name <;> simp [here]

theorem find?_upserted (m : Memory) (name other : String) (p : Point) :
    (m.update name (·.put p)).find? other =
      if other = name then (m.find? other).map (·.put p) else m.find? other :=
  find?_update fun _ => rfl

theorem grown_answer (m : Memory) (call : Call) : m.Grown (m.answer call).2 := by
  cases call with
  | look name | query name q => exact .refl m
  | create spec =>
      rcases m.create_cases spec with ⟨-, refused⟩ | ⟨-, created⟩
      · rw [answer, refused]
        exact fun name c found => ⟨c, found, .refl c⟩
      · intro name c found
        refine ⟨c, ?_, .refl c⟩
        rw [answer, created, find?_append_new, found, Option.some_or]
  | upsert name p =>
      cases done : m.upsert name p with
      | mk result m' =>
          rw [answer, done]
          cases result with
          | error f =>
              obtain rfl := upsert_error done
              exact .refl _
          | ok =>
              obtain ⟨-, -, -, rfl⟩ := upsert_ok_iff.mp done
              intro other c found
              by_cases here : other = name
              · exact ⟨c.put p, by rw [find?_upserted, if_pos here, found]; rfl, c.grown_put p⟩
              · exact ⟨c, by rw [find?_upserted, if_neg here, found], .refl c⟩

theorem Sound.answer (sound : m.Sound) (call : Call) : (m.answer call).2.Sound := by
  cases call with
  | look name | query name q => exact sound
  | create spec =>
      rcases m.create_cases spec with ⟨-, refused⟩ | ⟨missing, created⟩
      · rw [Memory.answer, refused]
        exact ⟨sound.names, sound.each⟩
      · rw [Memory.answer, created]
        constructor
        · have fresh : spec.name ∉ m.collections.map (·.spec.name) := by
            intro member
            obtain ⟨c, hc, named⟩ := List.mem_map.mp member
            have other := List.find?_eq_none.mp missing c hc
            exact other (by simpa using named)
          simpa using sound.names.concat fresh
        · intro c member
          rcases List.mem_append.mp member with before | new
          · exact sound.each c before
          · rw [List.mem_singleton.mp new]
            exact ⟨List.nodup_nil, fun _ none? => nomatch none?⟩
  | upsert name p =>
      cases done : m.upsert name p with
      | mk result m' =>
          rw [Memory.answer, done]
          cases result with
          | error f =>
              obtain rfl := upsert_error done
              exact sound
          | ok =>
              obtain ⟨c, found, fits, rfl⟩ := upsert_ok_iff.mp done
              have named (c : Collection) :
                  (if c.spec.name = name then c.put p else c).spec.name = c.spec.name := by
                split <;> rfl
              constructor
              · simpa [update, Function.comp_def, named] using sound.names
              · intro c' member
                obtain ⟨before, hbefore, rfl⟩ := List.mem_map.mp member
                split
                · rename_i here
                  obtain rfl := sound.eq_of_name found hbefore here
                  exact (sound.each _ hbefore).put fits
                · exact sound.each _ hbefore

theorem Sound.after (sound : m.Sound) (calls : List Call) : (m.after calls).Sound := by
  induction calls generalizing m with
  | nil => exact sound
  | cons call rest ih => exact ih (sound.answer call)

theorem grown_after (m : Memory) (calls : List Call) : m.Grown (m.after calls) := by
  induction calls generalizing m with
  | nil => exact .refl m
  | cons call rest ih => exact (m.grown_answer call).trans (ih _)

theorem sound_empty : Sound {} := ⟨List.nodup_nil, fun _ none? => nomatch none?⟩

theorem answer_upsert_iff :
    m.answer (.upsert name p) = (.ok .done, m') ↔ m.upsert name p = (.ok (), m') := by
  rw [answer]
  cases m.upsert name p with
  | mk result m' => cases result <;> simp [Except.map]

/-- A call that is refused changes no collection. -/
theorem collections_of_refused {call : Call} {f : Fault} (refused : (m.answer call).1 = .error f) :
    (m.answer call).2.collections = m.collections := by
  cases call with
  | look name | query name q => rfl
  | create spec =>
      rcases m.create_cases spec with ⟨-, create⟩ | ⟨-, create⟩
      · rw [answer, create]
      · rw [answer, create] at refused
        cases refused
  | upsert name p =>
      cases put : m.upsert name p with
      | mk result m' =>
          rw [answer, put] at refused ⊢
          cases result with
          | error f =>
              obtain rfl := upsert_error put
              rfl
          | ok => cases refused

/-- Whatever calls have made a store of an empty one, it is sound, and no later call takes anything
from it. A point that is taken has the place of its id, or the last one, and nothing else changes.
-/
theorem after_keeps (before : List Call) :
    let m := Memory.after {} before
    m.Sound ∧
    (∀ later, m.Grown (m.after later)) ∧
    (∀ name p,
      (∃ m', m.answer (.upsert name p) = (.ok .done, m')) ↔
        ∃ c, m.find? name = some c ∧ p.vector.length = c.spec.dimensions) ∧
    (∀ name p m', m.answer (.upsert name p) = (.ok .done, m') →
      ∃ c points, m.find? name = some c ∧ m'.find? name = some { c with points } ∧
        points.find? (·.id = p.id) = some p ∧
        (∀ i, (c.points.map Point.id)[i]? = some p.id → points = c.points.set i p) ∧
        (p.id ∉ c.points.map Point.id → points = c.points ++ [p]) ∧
        ∀ other, other ≠ name → m'.find? other = m.find? other) ∧
    ∀ call, ((∃ f, (m.answer call).1 = .error f) ∨ call.isQuestion = true) →
      (m.answer call).2.collections = m.collections := by
  intro m
  have sound : m.Sound := sound_empty.after before
  refine ⟨sound, m.grown_after, ?_, ?_, ?_⟩
  · intro name p
    simp only [answer_upsert_iff, upsert_ok_iff]
    constructor
    · rintro ⟨-, c, found, fits, -⟩
      exact ⟨c, found, fits⟩
    · rintro ⟨c, found, fits⟩
      exact ⟨_, c, found, fits, rfl⟩
  · intro name p m' done
    obtain ⟨c, found, -, rfl⟩ := upsert_ok_iff.mp (answer_upsert_iff.mp done)
    have distinct := (sound.each c (find?_spec found).1).distinct
    refine ⟨c, putPoint p c.points, found, ?_, find?_putPoint p c.points,
      fun i => putPoint_known distinct, putPoint_fresh, ?_⟩
    · rw [find?_upserted, if_pos rfl, found]
      rfl
    · intro other differs
      rw [find?_upserted, if_neg differs]
  · rintro call (⟨f, refused⟩ | asks)
    · exact collections_of_refused refused
    · cases call with
      | look name | query name q => rfl
      | create spec | upsert name p => cases asks

/-- Of two points the first is replaced, and stays the first. -/
theorem after_keeps_replaced :
    ∃ m', (Memory.after {} [.create ⟨"c", 1⟩, .upsert "c" ⟨"a", [0], []⟩,
        .upsert "c" ⟨"b", [0], []⟩]).answer (.upsert "c" ⟨"a", [1], []⟩) = (.ok .done, m') ∧
      (m'.find? "c").map Collection.points = some [⟨"a", [1], []⟩, ⟨"b", [0], []⟩] := by
  obtain ⟨-, -, -, taken, -⟩ := after_keeps [.create ⟨"c", 1⟩, .upsert "c" ⟨"a", [0], []⟩,
    .upsert "c" ⟨"b", [0], []⟩]
  obtain ⟨c, points, found, found', -, replaced, -⟩ := taken "c" ⟨"a", [1], []⟩ _ rfl
  cases found
  obtain rfl := replaced 0 rfl
  exact ⟨_, rfl, congrArg (Option.map Collection.points) found'⟩

end Memory

end AnswerGateway.Store
