import AnswerGateway.Proofs.Store.Race

/-!
A store that others call too. Between any two calls of one's own, others may make any series of
calls, and create collections among them. What is called stands in a log that nothing reads. The
first call in the log that asks for a collection of some name decides what that collection holds,
and whoever asks for another one of that name later gets the first.
-/

namespace AnswerGateway.Store

/-- The collection of a name that a call asks to create. -/
def Call.creation? (name : String) : Call → Option CollectionSpec
  | .create spec => if spec.name = name then some spec else none
  | .look _ | .upsert .. | .query .. => none

/-- The first collection of a name that is asked for. -/
def firstCreation? (name : String) (calls : List Call) : Option CollectionSpec :=
  calls.findSome? (·.creation? name)

namespace Memory

variable {m : Memory} {name : String}

theorem spec_answer (m : Memory) (call : Call) (name : String) :
    ((m.answer call).2.find? name).map Collection.spec =
      ((m.find? name).map Collection.spec).or (call.creation? name) := by
  cases call with
  | look other | query other q => exact (Option.or_none).symm
  | create spec =>
      rcases m.create_cases spec with ⟨there, create⟩ | ⟨missing, create⟩
      · rw [answer, create]
        change (m.find? name).map Collection.spec = _
        cases found : m.find? name with
        | some c => rfl
        | none =>
            have other : spec.name ≠ name := by
              rintro rfl
              simp [holds, found] at there
            simp [Call.creation?, other]
      · rw [answer, create, find?_append_new]
        cases m.find? name with
        | some c => rfl
        | none => by_cases here : spec.name = name <;> simp [Call.creation?, here]
  | upsert other p =>
      cases done : m.upsert other p with
      | mk result m' =>
          rw [answer, done, Call.creation?, Option.or_none]
          cases result with
          | error f =>
              obtain rfl := upsert_error done
              rfl
          | ok =>
              obtain ⟨-, -, -, rfl⟩ := upsert_ok_iff.mp done
              rw [find?_upserted]
              split
              · cases m.find? name <;> rfl
              · rfl

/-- A collection holds what it was created for: what was asked for first. -/
theorem spec_after (m : Memory) (calls : List Call) (name : String) :
    ((m.after calls).find? name).map Collection.spec =
      ((m.find? name).map Collection.spec).or (firstCreation? name calls) := by
  induction calls generalizing m with
  | nil => exact (Option.or_none).symm
  | cons call rest ih =>
      change (((m.answer call).2.after rest).find? name).map Collection.spec = _
      rw [ih, spec_answer, Option.or_assoc, firstCreation?, firstCreation?, List.findSome?_cons]
      cases call.creation? name <;> rfl

theorem holds_after (there : m.holds name = true) (calls : List Call) :
    (m.after calls).holds name = true := by
  obtain ⟨c, found⟩ := Option.isSome_iff_exists.mp there
  obtain ⟨c', found', -⟩ := m.grown_after calls name c found
  rw [holds, found']
  rfl

/-- A vector can be kept if the collection is for vectors of its length, whatever has been called
since. -/
theorem upsert_later_iff {c : Collection} (found : m.find? name = some c)
    (later : List Call) (p : Point) :
    ((m.after later).upsert name p).1 = .ok () ↔ p.vector.length = c.spec.dimensions := by
  obtain ⟨c', found', grown⟩ := m.grown_after later name c found
  rw [Memory.upsert_eq, found', ← grown.spec]
  by_cases fits : p.vector.length = c'.spec.dimensions <;> simp [fits]

end Memory

/-- A store, what others will call, and what has been called. -/
structure Shared where
  store : Memory
  /-- What others call before one's own next call, before the one after that, and so on. -/
  others : List (List Call) := []
  log : List Call := []

namespace Shared

def opened (earlier : List Call) (others : List (List Call)) : Shared :=
  { store := Memory.after {} earlier, others, log := earlier }

/-- The others have called. -/
def turn (s : Shared) : Shared :=
  { store := s.store.after (s.others.headD [])
    others := s.others.tail
    log := s.log ++ s.others.headD [] }

/-- A call of one's own, behind those of the others. -/
def after {α : Type} (s : Shared) (own : Call) (act : StateM Memory α) : α × Shared :=
  let (answer, store) := act.run s.turn.store
  (answer, { s.turn with store, log := s.turn.log ++ [own] })

def calls : Ensure.Calls (StateM Shared) where
  look name := modifyGet fun s => s.after (.look name) (Memory.calls.look name)
  create spec := modifyGet fun s => s.after (.create spec) (Memory.calls.create spec)

/-- Whether a store is an earlier one after the calls that have been logged since. -/
def Follows (s s' : Shared) : Prop :=
  ∃ more, s'.store = s.store.after more ∧ s'.log = s.log ++ more

variable {s s' s'' : Shared} {spec : CollectionSpec} {e : Ensure}

theorem Follows.refl (s : Shared) : s.Follows s := ⟨[], rfl, (List.append_nil _).symm⟩

theorem Follows.trans (first : s.Follows s') (second : s'.Follows s'') : s.Follows s'' := by
  obtain ⟨calls, store, log⟩ := first
  obtain ⟨more, store', log'⟩ := second
  refine ⟨calls ++ more, ?_, ?_⟩
  · rw [store', store, Memory.after_append]
  · rw [log', log, List.append_assoc]

/-- What the call of one's own does is all that happens behind those of the others. -/
theorem follows_after {α : Type} {own : Call} {act : StateM Memory α}
    (does : (act.run s.turn.store).2 = (s.turn.store.answer own).2) :
    s.Follows (s.after own act).2 := by
  refine ⟨s.others.headD [] ++ [own], ?_, (List.append_assoc _ _ _)⟩
  rw [Memory.after_append]
  exact does

theorem follows_look (s : Shared) (name : String) :
    s.Follows (s.after (.look name) (Memory.calls.look name)).2 := follows_after rfl

theorem follows_create (s : Shared) (spec : CollectionSpec) :
    s.Follows (s.after (.create spec) (Memory.calls.create spec)).2 := follows_after rfl

theorem step_look (looks : e.call? = some .look) (s : Shared) :
    (Ensure.step calls spec e).run s =
      (e.looked (.ok (s.turn.store.holds spec.name)),
        (s.after (.look spec.name) (Memory.calls.look spec.name)).2) := by
  rw [Ensure.step, looks]
  rfl

theorem step_create (creates : e.call? = some .create) (s : Shared) :
    (Ensure.step calls spec e).run s =
      (e.created (s.turn.store.create spec).1,
        (s.after (.create spec) (Memory.calls.create spec)).2) := by
  rw [Ensure.step, creates]
  rfl

/-- Where one stands who makes sure of a collection, with the calls that are left at most. -/
inductive Standing (spec : CollectionSpec) (m : Memory) : Nat → Ensure → Prop
  | looking : Standing spec m 3 .looking
  | creating : Standing spec m 2 .creating
  | rechecking (f : Fault) (there : m.holds spec.name = true) :
      Standing spec m 1 (.recheckingAfter f)
  | finished (left : Nat) {created : Bool} {c : Collection} (found : m.find? spec.name = some c)
      (own : created = true → c.spec = spec) : Standing spec m left (.finished (.ok created))

theorem Standing.present {m : Memory} (there : m.holds spec.name = true) (left : Nat) :
    Standing spec m left (.finished (.ok false)) := by
  obtain ⟨c, found⟩ := Option.isSome_iff_exists.mp there
  exact .finished left found fun none? => nomatch none?

theorem Standing.step {left : Nat} (standing : Standing spec s.store (left + 1) e) :
    let next := (Ensure.step calls spec e).run s
    s.Follows next.2 ∧ Standing spec next.2.store left next.1 := by
  cases standing with
  | looking =>
      rw [step_look rfl]
      refine ⟨follows_look s spec.name, ?_⟩
      change Standing spec s.turn.store 2 _
      cases there : s.turn.store.holds spec.name with
      | true => exact .present there 2
      | false => exact .creating
  | creating =>
      rw [step_create rfl]
      refine ⟨follows_create s spec, ?_⟩
      change Standing spec (s.turn.store.create spec).2 1 _
      rcases s.turn.store.create_cases spec with ⟨there, create⟩ | ⟨missing, create⟩
      · rw [create]
        exact .rechecking _ there
      · rw [create]
        have found := s.turn.store.find?_append_new spec (s.turn.store.createCalls + 1) spec.name
        rw [missing, if_pos rfl, Option.none_or] at found
        exact .finished 1 found fun _ => rfl
  | rechecking f there =>
      have still : s.turn.store.holds spec.name = true := Memory.holds_after there _
      rw [step_look rfl, still]
      refine ⟨follows_look s spec.name, ?_⟩
      change Standing spec s.turn.store 0 _
      exact .present still 0
  | finished _ found own => exact ⟨.refl s, .finished left found own⟩

/-- Whatever others call meanwhile, a collection of the name is there in the end. Who has created it
has the one that was wanted. -/
theorem run_ensure (spec : CollectionSpec) (s : Shared) :
    ∃ created s' c, (Ensure.run calls spec).run s = (.ok created, s') ∧ s.Follows s' ∧
      s'.store.find? spec.name = some c ∧ (created = true → c.spec = spec) := by
  have first := (Standing.looking : Standing spec s.store 3 .looking).step
  have second := first.2.step
  have third := second.2.step
  generalize h₁ : (Ensure.step calls spec .looking).run s = next₁ at first second third
  generalize h₂ : (Ensure.step calls spec next₁.1).run next₁.2 = next₂ at second third
  generalize h₃ : (Ensure.step calls spec next₂.1).run next₂.2 = next₃ at third
  obtain ⟨e₃, s₃⟩ := next₃
  obtain ⟨follows, standing⟩ := third
  cases standing with
  | @finished _ created c found own =>
      exact ⟨created, s₃, c, Ensure.run_of_steps h₁ h₂ h₃,
        (first.1.trans second.1).trans follows, found, own⟩

/-- The store is what the log has made of an empty one, and its collections hold what was asked for
first. -/
theorem Follows.of_opened {earlier : List Call} {others : List (List Call)}
    (follows : (opened earlier others).Follows s) :
    s.store = Memory.after {} s.log ∧ earlier <+: s.log ∧
      ∀ name, (s.store.find? name).map Collection.spec = firstCreation? name s.log := by
  obtain ⟨more, store, log⟩ := follows
  have made : s.store = Memory.after {} s.log := by
    rw [store, log, opened, Memory.after_append]
  refine ⟨made, ⟨more, log.symm⟩, ?_⟩
  intro name
  rw [made, Memory.spec_after]
  rfl

end Shared

end AnswerGateway.Store
