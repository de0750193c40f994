import AnswerGateway.Proofs.Store.Calls
import AnswerGateway.Proofs.Trace

/-!
Several instances that make sure of one collection in a shared store. Looking and creating are
separate calls, and between any two of them the others may come, as may those who put points in and
ask questions. A collection that is there at the start is left alone. One that is missing is created
by a single instance, whichever comes first, and every other one finds that it is there.

A log of what each instance was told stands beside it; nothing reads it.
-/

namespace AnswerGateway.Store

namespace Ensure

/-- A call to a store that has been answered. -/
inductive Event where
  | looked (name : String) (answer : Except Fault Bool)
  | created (spec : CollectionSpec) (answer : Except Fault Unit)

def Event.isAttempt : Event → Bool
  | .looked .. => false
  | .created .. => true

/-- Whether an instance is done. -/
def isFinished : Ensure → Bool
  | .finished _ => true
  | _ => false

theorem exists_of_isFinished {e : Ensure} (done : e.isFinished = true) :
    ∃ result, e = .finished result := by
  cases e with
  | looking | creating | recheckingAfter f => cases done
  | finished result => exact ⟨result, rfl⟩

variable {σ : Type}

/-- The same calls, with a log of them. -/
def Calls.recorded (calls : Calls (StateM σ)) : Calls (StateM (σ × List Event)) where
  look name := modifyGet fun (s, log) =>
    let (answer, s) := (calls.look name).run s
    (answer, s, log ++ [.looked name answer])
  create spec := modifyGet fun (s, log) =>
    let (answer, s) := (calls.create spec).run s
    (answer, s, log ++ [.created spec answer])

/-- What an instance that is done has been told, and what it makes of it. -/
inductive Settled (spec : CollectionSpec) : List Event → Except Fault Bool → Prop
  | present : Settled spec [.looked spec.name (.ok true)] (.ok false)
  | unseen (f : Fault) : Settled spec [.looked spec.name (.error f)] (.error f)
  | won : Settled spec [.looked spec.name (.ok false), .created spec (.ok ())] (.ok true)
  | beaten (f : Fault) : Settled spec
      [.looked spec.name (.ok false), .created spec (.error f), .looked spec.name (.ok true)]
      (.ok false)
  | refused (f : Fault) : Settled spec
      [.looked spec.name (.ok false), .created spec (.error f), .looked spec.name (.ok false)]
      (.error f)
  | unsure (f g : Fault) : Settled spec
      [.looked spec.name (.ok false), .created spec (.error f), .looked spec.name (.error g)]
      (.error g)

/-- What an instance has been told when it stands somewhere. -/
inductive Told (spec : CollectionSpec) : Ensure → List Event → Prop
  | looking : Told spec .looking []
  | creating : Told spec .creating [.looked spec.name (.ok false)]
  | rechecking (f : Fault) : Told spec (.recheckingAfter f)
      [.looked spec.name (.ok false), .created spec (.error f)]
  | finished {log : List Event} {result : Except Fault Bool} (settled : Settled spec log result) :
      Told spec (.finished result) log

variable {calls : Calls (StateM σ)} {spec : CollectionSpec} {e : Ensure} {s : σ} {log : List Event}

theorem Settled.attempts_le {result : Except Fault Bool} (settled : Settled spec log result) :
    log.countP Event.isAttempt ≤ 1 := by
  cases settled <;> simp [List.countP_cons, Event.isAttempt]

theorem Told.attempts_le (told : Told spec e log) : log.countP Event.isAttempt ≤ 1 := by
  cases told with
  | looking | creating | rechecking => simp [Event.isAttempt]
  | finished settled => exact settled.attempts_le

theorem Told.length_le (told : Told spec e log) : log.length ≤ 3 := by
  cases told with
  | looking | creating | rechecking => simp
  | finished settled => cases settled <;> simp

/-- A fault is that of the creation only if the collection is then seen to be missing, and else that
of a look. -/
theorem Settled.error_iff {result : Except Fault Bool} (settled : Settled spec log result)
    (f : Fault) :
    result = .error f ↔
      log = [.looked spec.name (.ok false), .created spec (.error f),
        .looked spec.name (.ok false)] ∨
      log.getLast? = some (.looked spec.name (.error f)) := by
  cases settled <;> simp

/-- A step asks one thing more, unless the instance is done. -/
theorem Told.step (told : Told spec e log) (calls : Calls (StateM σ)) (s : σ) :
    let next := (Ensure.step calls.recorded spec e).run (s, log)
    Told spec next.1 next.2.2 ∧
      ∀ n, e.isFinished = true ∨ n ≤ log.length →
        next.1.isFinished = true ∨ n + 1 ≤ next.2.2.length := by
  cases told with
  | looking =>
      refine ⟨?_, fun n far => .inr (Nat.succ_le_succ (far.resolve_left Bool.false_ne_true))⟩
      change Told spec (looked ((calls.look spec.name).run s).1 .looking)
        [.looked spec.name ((calls.look spec.name).run s).1]
      match ((calls.look spec.name).run s).1 with
      | .ok true => exact .finished .present
      | .ok false => exact .creating
      | .error f => exact .finished (.unseen f)
  | creating =>
      refine ⟨?_, fun n far => .inr (Nat.succ_le_succ (far.resolve_left Bool.false_ne_true))⟩
      change Told spec (created ((calls.create spec).run s).1 .creating)
        [.looked spec.name (.ok false), .created spec ((calls.create spec).run s).1]
      match ((calls.create spec).run s).1 with
      | .ok () => exact .finished .won
      | .error f => exact .rechecking f
  | rechecking f =>
      refine ⟨?_, fun n far => .inr (Nat.succ_le_succ (far.resolve_left Bool.false_ne_true))⟩
      change Told spec (looked ((calls.look spec.name).run s).1 (.recheckingAfter f))
        [.looked spec.name (.ok false), .created spec (.error f),
          .looked spec.name ((calls.look spec.name).run s).1]
      match ((calls.look spec.name).run s).1 with
      | .ok true => exact .finished (.beaten f)
      | .ok false => exact .finished (.refused f)
      | .error g => exact .finished (.unsure f g)
  | finished settled => exact ⟨.finished settled, fun n _ => .inl rfl⟩

theorem Told.settled (told : Told spec e log) (far : e.isFinished = true ∨ 3 ≤ log.length) :
    ∃ result, e = .finished result ∧ Settled spec log result := by
  cases told with
  | looking | creating | rechecking => simp [isFinished] at far
  | finished settled => exact ⟨_, rfl, settled⟩

/-- The log changes nothing. -/
theorem step_recorded (calls : Calls (StateM σ)) (spec : CollectionSpec) (e : Ensure) (s : σ)
    (log : List Event) :
    let next := (Ensure.step calls.recorded spec e).run (s, log)
    (Ensure.step calls spec e).run s = (next.1, next.2.1) := by
  cases e <;> rfl

theorem run_of_steps {e₁ e₂ : Ensure} {s₁ s₂ s₃ : σ} {result : Except Fault Bool}
    (first : (Ensure.step calls spec .looking).run s = (e₁, s₁))
    (second : (Ensure.step calls spec e₁).run s₁ = (e₂, s₂))
    (third : (Ensure.step calls spec e₂).run s₂ = (.finished result, s₃)) :
    (run calls spec).run s = (result, s₃) := by
  rw [run, StateT.run_bind, first]
  change StateT.run (Ensure.step calls spec e₁ >>= _) s₁ = _
  rw [StateT.run_bind, second]
  change StateT.run (Ensure.step calls spec e₂ >>= _) s₂ = _
  rw [StateT.run_bind, third]
  rfl

/-- Three steps are enough, whatever the store answers. -/
theorem run_settled (calls : Calls (StateM σ)) (spec : CollectionSpec) (s : σ) :
    let after := (run calls.recorded spec).run (s, [])
    (run calls spec).run s = (after.1, after.2.1) ∧ Settled spec after.2.2 after.1 := by
  have step (n : Nat) (e : Ensure) (s : σ) (log : List Event) (told : Told spec e log)
      (far : e.isFinished = true ∨ n ≤ log.length) :
      ∃ e' s' log', (Ensure.step calls.recorded spec e).run (s, log) = (e', s', log') ∧
        (Ensure.step calls spec e).run s = (e', s') ∧ Told spec e' log' ∧
        (e'.isFinished = true ∨ n + 1 ≤ log'.length) := by
    obtain ⟨told', further⟩ := told.step calls s
    exact ⟨_, _, _, rfl, step_recorded calls spec e s log, told', further n far⟩
  obtain ⟨e₁, s₁, log₁, first, first', told₁, far₁⟩ :=
    step 0 .looking s [] .looking (.inr (Nat.zero_le _))
  obtain ⟨e₂, s₂, log₂, second, second', told₂, far₂⟩ := step 1 e₁ s₁ log₁ told₁ far₁
  obtain ⟨e₃, s₃, log₃, third, third', told₃, far₃⟩ := step 2 e₂ s₂ log₂ told₂ far₂
  obtain ⟨result, rfl, settled⟩ := told₃.settled far₃
  rw [run_of_steps first second third, run_of_steps first' second' third']
  exact ⟨rfl, settled⟩

end Ensure

/-- An instance that makes sure of a collection. -/
structure Racer where
  spec : CollectionSpec
  stands : Ensure := .looking
  log : List Ensure.Event := []

/-- Instances, and the store that they share. -/
structure Race where
  store : Memory
  racers : List Racer

inductive Race.Action where
  /-- An instance makes its next call. -/
  | advance (i : Nat)
  /-- Someone else calls the store, but creates nothing. -/
  | outside (call : Call)

def Call.isCreation : Call → Bool
  | .create _ => true
  | .look _ | .upsert .. | .query .. => false

namespace Memory

variable {m : Memory} {name : String} {call : Call}

theorem createCalls_answer (other : call.isCreation = false) :
    (m.answer call).2.createCalls = m.createCalls := by
  cases call with
  | look name | query name q => rfl
  | create spec => cases other
  | upsert name p =>
      rw [answer, upsert_eq]
      split
      · rfl
      · split <;> rfl

theorem missing_answer (other : call.isCreation = false) (missing : m.find? name = none) :
    (m.answer call).2.find? name = none := by
  cases call with
  | look name | query name q => exact missing
  | create spec => cases other
  | upsert target p =>
      rw [answer, upsert_eq]
      split
      · exact missing
      · split
        · rw [find?_upserted, missing]
          split <;> rfl
        · exact missing

end Memory

namespace Racer

/-- How often an instance has tried to create its collection. -/
def attempts (r : Racer) : Nat := r.log.countP Ensure.Event.isAttempt

def advance (r : Racer) (m : Memory) : Racer × Memory :=
  let (stands, m, log) := (Ensure.step Memory.calls.recorded r.spec r.stands).run (m, r.log)
  ({ r with stands, log }, m)

variable {r : Racer} {m : Memory}

theorem advance_looking (stands : r.stands = .looking) :
    r.advance m = ({ r with
      stands := Ensure.looked (.ok (m.holds r.spec.name)) .looking
      log := r.log ++ [.looked r.spec.name (.ok (m.holds r.spec.name))] }, m) := by
  rw [advance, stands]
  rfl

theorem advance_creating (stands : r.stands = .creating) :
    r.advance m = ({ r with
      stands := Ensure.created (m.create r.spec).1 .creating
      log := r.log ++ [.created r.spec (m.create r.spec).1] }, (m.create r.spec).2) := by
  rw [advance, stands]
  rfl

theorem advance_rechecking {f : Fault} (stands : r.stands = .recheckingAfter f) :
    r.advance m = ({ r with
      stands := Ensure.looked (.ok (m.holds r.spec.name)) (.recheckingAfter f)
      log := r.log ++ [.looked r.spec.name (.ok (m.holds r.spec.name))] }, m) := by
  rw [advance, stands]
  rfl

/-- A collection that is there stays as it is, and an instance that finds it has not created it. -/
theorem advance_there (there : m.holds r.spec.name = true) (going : r.stands.isFinished = false) :
    (r.advance m).2.collections = m.collections ∧
      ∀ result, (r.advance m).1.stands = .finished result → result = .ok false := by
  cases stands : r.stands with
  | looking =>
      rw [advance_looking stands, there]
      exact ⟨rfl, fun _ finished => (Ensure.finished.inj finished).symm⟩
  | creating =>
      rcases m.create_cases r.spec with ⟨-, create⟩ | ⟨missing, -⟩
      · rw [advance_creating stands, create]
        exact ⟨rfl, fun _ finished => nomatch finished⟩
      · simp [Memory.holds, missing] at there
  | recheckingAfter f =>
      rw [advance_rechecking stands, there]
      exact ⟨rfl, fun _ finished => (Ensure.finished.inj finished).symm⟩
  | finished result => simp [stands, Ensure.isFinished] at going

end Racer

namespace Race

variable {race race' : Race} {m : Memory} {name : String} {specs : List CollectionSpec}

def start (m : Memory) (specs : List CollectionSpec) : Race := ⟨m, specs.map fun spec => { spec }⟩

/-- The race after an action; none if the action cannot happen now. -/
def step? (race : Race) : Action → Option Race
  | .advance i =>
    match race.racers[i]? with
    | none => none
    | some r =>
      if r.stands.isFinished then none
      else some ⟨(r.advance race.store).2, race.racers.set i (r.advance race.store).1⟩
  | .outside call =>
    if call.isCreation then none else some { race with store := (race.store.answer call).2 }

theorem step_cases {a : Action} (h : race.step? a = some race') :
    (∃ i r, a = .advance i ∧ race.racers[i]? = some r ∧ r.stands.isFinished = false ∧
        race' = ⟨(r.advance race.store).2, race.racers.set i (r.advance race.store).1⟩) ∨
      ∃ call, a = .outside call ∧ call.isCreation = false ∧
        race' = { race with store := (race.store.answer call).2 } := by
  cases a with
  | advance i =>
      simp only [step?] at h
      split at h
      · cases h
      · rename_i r here
        split at h
        · cases h
        · rename_i going
          exact .inl ⟨i, r, rfl, here, Bool.eq_false_iff.mpr going, (Option.some.inj h).symm⟩
  | outside call =>
      simp only [step?] at h
      split at h
      · cases h
      · rename_i other
        exact .inr ⟨call, rfl, Bool.eq_false_iff.mpr other, (Option.some.inj h).symm⟩

/-- The collection has been there from the start. -/
structure AtRest (m : Memory) (name : String) (race : Race) : Prop where
  there : race.store.holds name = true
  untried : race.store.createCalls = m.createCalls
  waits : ∀ r ∈ race.racers,
    (r.stands = .looking ∨ r.stands = .finished (.ok false)) ∧ r.attempts = 0

/-- Nobody has created the collection yet. -/
structure Open (name : String) (race : Race) : Prop where
  missing : race.store.find? name = none
  going : ∀ r ∈ race.racers, r.stands = .looking ∨ r.stands = .creating

/-- One instance has created the collection, and the others have not. -/
structure Won (name : String) (i : Nat) (race : Race) : Prop where
  winner : ∃ r c, race.racers[i]? = some r ∧ r.stands = .finished (.ok true) ∧
    race.store.find? name = some c ∧ c.spec = r.spec
  others : ∀ j r, race.racers[j]? = some r → j ≠ i →
    ∀ result, r.stands = .finished result → result = .ok false

theorem AtRest.step {a : Action} (rest : AtRest m name race)
    (named : ∀ r ∈ race.racers, r.spec.name = name) (h : race.step? a = some race') :
    AtRest m name race' := by
  rcases step_cases h with ⟨i, r, -, here, going, rfl⟩ | ⟨call, -, other, rfl⟩
  · have member := List.mem_of_getElem? here
    obtain ⟨stands, fresh⟩ := rest.waits r member
    have looking : r.stands = .looking := by
      refine stands.resolve_right fun finished => ?_
      simp [finished, Ensure.isFinished] at going
    have there : race.store.holds r.spec.name = true := named r member ▸ rest.there
    rw [Racer.advance_looking looking, there]
    refine ⟨rest.there, rest.untried, fun r' member' => ?_⟩
    rcases List.mem_or_eq_of_mem_set member' with before | rfl
    · exact rest.waits r' before
    · refine ⟨.inr rfl, ?_⟩
      simpa [Racer.attempts, Ensure.Event.isAttempt] using fresh
  · refine ⟨?_, ?_, rest.waits⟩
    · obtain ⟨c, found⟩ := Option.isSome_iff_exists.mp rest.there
      obtain ⟨c', found', -⟩ := race.store.grown_answer call name c found
      exact Option.isSome_iff_exists.mpr ⟨c', found'⟩
    · exact (Memory.createCalls_answer other).trans rest.untried

theorem Open.step {a : Action} (opened : Open name race)
    (named : ∀ r ∈ race.racers, r.spec.name = name) (h : race.step? a = some race') :
    Open name race' ∨ ∃ i, Won name i race' := by
  rcases step_cases h with ⟨i, r, -, here, going, rfl⟩ | ⟨call, -, other, rfl⟩
  · have member := List.mem_of_getElem? here
    have missing : race.store.find? r.spec.name = none := named r member ▸ opened.missing
    have absent : race.store.holds r.spec.name = false := by rw [Memory.holds, missing]; rfl
    rcases opened.going r member with looking | creating
    · left
      rw [Racer.advance_looking looking, absent]
      refine ⟨opened.missing, fun r' member' => ?_⟩
      rcases List.mem_or_eq_of_mem_set member' with before | rfl
      · exact opened.going r' before
      · exact .inr rfl
    · right
      rw [Racer.advance_creating creating, Memory.create_missing absent]
      have inside := (List.getElem?_eq_some_iff.mp here).1
      refine ⟨i, ⟨_, ⟨r.spec, []⟩, List.getElem?_set_self inside, rfl, ?_, rfl⟩, ?_⟩
      · rw [Memory.find?_append_new, opened.missing, if_pos (named r member)]
        rfl
      · intro j r' there differs result finished
        rw [List.getElem?_set_ne differs.symm] at there
        rcases opened.going r' (List.mem_of_getElem? there) with stands | stands
        · rw [stands] at finished
          cases finished
        · rw [stands] at finished
          cases finished
  · exact .inl ⟨Memory.missing_answer other opened.missing, opened.going⟩

theorem Won.step {a : Action} {i : Nat} (won : Won name i race)
    (named : ∀ r ∈ race.racers, r.spec.name = name) (h : race.step? a = some race') :
    Won name i race' := by
  obtain ⟨winner, c, stands, finished, found, same⟩ := won.winner
  rcases step_cases h with ⟨j, r, -, here, going, rfl⟩ | ⟨call, -, other, rfl⟩
  · have differs : j ≠ i := by
      rintro rfl
      obtain rfl : winner = r := Option.some.inj (stands.symm.trans here)
      simp [finished, Ensure.isFinished] at going
    have there : race.store.holds r.spec.name = true := by
      rw [named r (List.mem_of_getElem? here), Memory.holds, found]
      rfl
    obtain ⟨kept, yields⟩ := Racer.advance_there there going
    refine ⟨⟨winner, c, ?_, finished, ?_, same⟩, ?_⟩
    · rw [List.getElem?_set_ne differs, stands]
    · rw [Memory.find?, kept]
      exact found
    · intro k r' there' differs'
      by_cases same' : k = j
      · subst same'
        rw [List.getElem?_set_self (List.getElem?_eq_some_iff.mp here).1] at there'
        exact Option.some.inj there' ▸ yields
      · rw [List.getElem?_set_ne (Ne.symm same')] at there'
        exact won.others k r' there' differs'
  · obtain ⟨c', found', grown⟩ := race.store.grown_answer call name c found
    exact ⟨⟨winner, c', stands, finished, found', grown.spec.trans same⟩, won.others⟩

/-- What holds of every instance at any time. -/
structure Orderly (specs : List CollectionSpec) (race : Race) : Prop where
  specs : race.racers.map Racer.spec = specs
  told : ∀ r ∈ race.racers, Ensure.Told r.spec r.stands r.log

theorem Orderly.step {a : Action} (orderly : Orderly specs race) (h : race.step? a = some race') :
    Orderly specs race' := by
  rcases step_cases h with ⟨i, r, -, here, -, rfl⟩ | ⟨call, -, -, rfl⟩
  · constructor
    · obtain ⟨inside, rfl⟩ := List.getElem?_eq_some_iff.mp here
      rw [List.map_set, ← orderly.specs]
      change (race.racers.map Racer.spec).set i race.racers[i].spec = race.racers.map Racer.spec
      rw [← List.getElem_map Racer.spec (h := by simpa using inside), List.set_getElem_self]
    · intro r' member
      rcases List.mem_or_eq_of_mem_set member with before | rfl
      · exact orderly.told r' before
      · exact ((orderly.told r (List.mem_of_getElem? here)).step Memory.calls race.store).1
  · exact ⟨orderly.specs, orderly.told⟩

theorem Orderly.named (orderly : Orderly specs race) (same : ∀ spec ∈ specs, spec.name = name) :
    ∀ r ∈ race.racers, r.spec.name = name := by
  intro r member
  apply same
  rw [← orderly.specs]
  exact List.mem_map_of_mem member

theorem Orderly.racers_ne_nil (orderly : Orderly specs race) (any : specs ≠ []) :
    race.racers ≠ [] := by
  intro none
  exact any (by rw [← orderly.specs, none, List.map_nil])

/-- How a race goes, by whether the collection was there at its start. -/
def Situation (m : Memory) (name : String) (race : Race) : Prop :=
  if m.holds name then AtRest m name race else Open name race ∨ ∃ i, Won name i race

theorem situation_start (m : Memory) (name : String) (specs : List CollectionSpec) :
    Situation m name (start m specs) := by
  have fresh (r : Racer) (member : r ∈ (start m specs).racers) :
      r.stands = .looking ∧ r.attempts = 0 := by
    obtain ⟨spec, -, rfl⟩ := List.mem_map.mp member
    exact ⟨rfl, rfl⟩
  cases there : m.holds name with
  | true =>
      rw [Situation, if_pos there]
      exact ⟨there, rfl, fun r member => ⟨.inl (fresh r member).1, (fresh r member).2⟩⟩
  | false =>
      rw [Situation, there]
      have missing : m.find? name = none := by simpa [Memory.holds] using there
      exact .inl ⟨missing, fun r member => .inl (fresh r member).1⟩

theorem Situation.step {a : Action} (situation : Situation m name race)
    (named : ∀ r ∈ race.racers, r.spec.name = name) (h : race.step? a = some race') :
    Situation m name race' := by
  unfold Situation at situation ⊢
  split at situation
  · rename_i there
    rw [if_pos there]
    exact situation.step named h
  · rename_i missing
    rw [if_neg missing]
    rcases situation with opened | ⟨i, won⟩
    · exact opened.step named h
    · exact .inr ⟨i, won.step named h⟩

theorem situation_run (same : ∀ spec ∈ specs, spec.name = name) {actions : List Action}
    (h : Trace.run? step? (start m specs) actions = some race) :
    Orderly specs race ∧ Situation m name race := by
  refine Trace.induction (motive := fun _ race => Orderly specs race ∧ Situation m name race)
    ⟨⟨?_, ?_⟩, situation_start m name specs⟩ ?_ h
  · simp [start, Function.comp_def]
  · intro r member
    obtain ⟨spec, -, rfl⟩ := List.mem_map.mp member
    exact .looking
  · rintro - before a after ⟨orderly, situation⟩ step
    exact ⟨orderly.step step, situation.step (orderly.named same) step⟩

theorem Situation.not_failed (situation : Situation m name race) {r : Racer}
    (member : r ∈ race.racers) (f : Fault) : r.stands ≠ .finished (.error f) := by
  intro failed
  unfold Situation at situation
  split at situation
  · rcases (situation.waits r member).1 with stands | stands
    · cases failed.symm.trans stands
    · cases failed.symm.trans stands
  · rcases situation with opened | ⟨i, won⟩
    · rcases opened.going r member with stands | stands
      · cases failed.symm.trans stands
      · cases failed.symm.trans stands
    · obtain ⟨j, here⟩ := List.getElem?_of_mem member
      by_cases first : j = i
      · obtain ⟨winner, c, stands, created, -⟩ := won.winner
        subst first
        obtain rfl : r = winner := Option.some.inj (here.symm.trans stands)
        cases failed.symm.trans created
      · cases won.others j r here first _ failed

/-- However the calls come, no instance fails and none makes more than three of them. A collection
that is there is left alone, and a missing one is created by exactly one instance, as this one wants
it. At a store that may answer anything, an instance fails with the fault of its creation exactly if
it looks again and the collection is still missing, and else only because a look failed. -/
theorem run_settles (name : String) {actions : List Action} (any : specs ≠ [])
    (same : ∀ spec ∈ specs, spec.name = name)
    (h : Trace.run? step? (start m specs) actions = some race) :
    (race.racers.map Racer.spec = specs ∧
      (∀ r ∈ race.racers,
        r.log.length ≤ 3 ∧ r.attempts ≤ 1 ∧ ∀ f, r.stands ≠ .finished (.error f)) ∧
      (m.holds name = true → race.store.createCalls = m.createCalls ∧
        ∀ r ∈ race.racers, r.attempts = 0 ∧ r.stands ≠ .finished (.ok true)) ∧
      ((∀ r ∈ race.racers, r.stands.isFinished = true) →
        race.store.holds name = true ∧
        (m.holds name = false → ∃ (i : Nat) (winner : Racer) (c : Collection),
          race.racers[i]? = some winner ∧ winner.stands = .finished (.ok true) ∧
          race.store.find? name = some c ∧ c.spec = winner.spec ∧
          ∀ (j : Nat) (r : Racer), race.racers[j]? = some r → j ≠ i →
            r.stands = .finished (.ok false)))) ∧
    ∀ (σ : Type) (calls : Ensure.Calls (StateM σ)) (spec : CollectionSpec) (s : σ),
      let after := (Ensure.run calls.recorded spec).run (s, [])
      (Ensure.run calls spec).run s = (after.1, after.2.1) ∧
        Ensure.Settled spec after.2.2 after.1 ∧
        ∀ f, after.1 = .error f ↔
          after.2.2 = [.looked spec.name (.ok false), .created spec (.error f),
            .looked spec.name (.ok false)] ∨
          after.2.2.getLast? = some (.looked spec.name (.error f)) := by
  obtain ⟨orderly, situation⟩ := situation_run same h
  refine ⟨⟨orderly.specs, ?_, ?_, ?_⟩, ?_⟩
  · intro r member
    have told := orderly.told r member
    exact ⟨told.length_le, told.attempts_le, situation.not_failed member⟩
  · intro there
    rw [Situation, if_pos there] at situation
    refine ⟨situation.untried, fun r member => ⟨(situation.waits r member).2, fun created => ?_⟩⟩
    rcases (situation.waits r member).1 with stands | stands
    · cases created.symm.trans stands
    · cases created.symm.trans stands
  · intro finished
    cases there : m.holds name with
    | true =>
        rw [Situation, if_pos there] at situation
        exact ⟨situation.there, fun missing => nomatch missing⟩
    | false =>
        rw [Situation, there] at situation
        rcases situation with opened | ⟨i, won⟩
        · obtain ⟨r, member⟩ := List.exists_mem_of_ne_nil _ (orderly.racers_ne_nil any)
          have done := finished r member
          rcases opened.going r member with stands | stands
          · rw [stands] at done
            cases done
          · rw [stands] at done
            cases done
        · obtain ⟨winner, c, here, created, found, same⟩ := won.winner
          have there : race.store.holds name = true := Option.isSome_iff_exists.mpr ⟨c, found⟩
          refine ⟨there, fun _ => ⟨i, winner, c, here, created, found, same, ?_⟩⟩
          intro j r here differs
          obtain ⟨result, stands⟩ :=
            Ensure.exists_of_isFinished (finished r (List.mem_of_getElem? here))
          rw [stands, won.others j r here differs result stands]
  · intro σ calls spec s
    obtain ⟨unchanged, settled⟩ := Ensure.run_settled calls spec s
    exact ⟨unchanged, settled, fun f => settled.error_iff f⟩

/-- Of two instances that both find the collection missing, one comes first with its creation; the
other returns that it has created nothing. -/
theorem run_settles_two :
    ∃ race, Trace.run? step? (start {} [⟨"c", 1⟩, ⟨"c", 2⟩])
        [.advance 0, .advance 1, .advance 1, .outside (.upsert "c" ⟨"a", [0, 0], []⟩), .advance 0,
          .advance 0] = some race ∧
      ∃ (i : Nat) (winner : Racer) (c : Collection), race.racers[i]? = some winner ∧
        winner.stands = .finished (.ok true) ∧ race.store.find? "c" = some c ∧
        c.spec = winner.spec ∧ ∀ (j : Nat) (r : Racer), race.racers[j]? = some r → j ≠ i →
          r.stands = .finished (.ok false) := by
  obtain ⟨race, h⟩ : ∃ race, Trace.run? step? (start {} [⟨"c", 1⟩, ⟨"c", 2⟩])
      [.advance 0, .advance 1, .advance 1, .outside (.upsert "c" ⟨"a", [0, 0], []⟩), .advance 0,
        .advance 0] = some race := ⟨_, rfl⟩
  obtain ⟨⟨-, -, -, settled⟩, -⟩ := run_settles "c" (List.cons_ne_nil _ _) (by decide) h
  refine ⟨race, h, (settled ?_).2 rfl⟩
  obtain rfl := Option.some.inj h
  decide

end Race

end AnswerGateway.Store
