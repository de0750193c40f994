import AnswerGateway.Proofs.Cache.Calls
import Mathlib.Data.List.Forall2

/-!
What a store knows by itself of the records that are brought to it. The account of a site is written
by the site; here the store, whichever it is, keeps a log of the points that it was asked to keep
and of what it answered. It is asked once for each record whose writing ends there, in the order in
which these writings end, and for nothing else; and what it is asked to keep is the whole record.
-/

namespace AnswerGateway.Cache

variable {σ : Type}

/-- A point that a store was asked to keep, and its answer. -/
structure Deposit where
  collection : String
  point : Store.Point
  answer : Except Fault Unit
  deriving Repr

def Deposit.call (d : Deposit) : Call := .upsert d.collection d.point d.answer

/-- The same store, which writes down by itself what it is asked to keep. -/
def StoreCalls.logged (calls : StoreCalls σ) : StoreCalls (σ × List Deposit) where
  upsert name point s :=
    let (answer, store) := calls.upsert name point s.1
    (answer, store, s.2 ++ [⟨name, point, answer⟩])
  query name question s :=
    let (points, store) := calls.query name question s.1
    (points, store, s.2)

namespace Site

/-- A site whose store has such a log. -/
def withLog (s : Site σ) (log : List Deposit) : Site (σ × List Deposit) where
  engine := s.engine
  store := (s.store, log)
  metrics := s.metrics
  waiting := s.waiting
  returned := s.returned
  ledger := s.ledger

/-- The site whose store has lost its log. -/
def bare (s : Site (σ × List Deposit)) : Site σ where
  engine := s.engine
  store := s.store.1
  metrics := s.metrics
  waiting := s.waiting
  returned := s.returned
  ledger := s.ledger

variable {calls : StoreCalls σ}

/-- Nobody asks the log anything. -/
theorem step?_bare (s : Site (σ × List Deposit)) (a : Action) :
    s.bare.step? calls a = (s.step? calls.logged a).map bare := by
  cases a with
  | offer r => rfl
  | move index event =>
      simp only [step?, move?, bare]
      split
      · cases s.engine.work? index event <;> rfl
      · rfl
  | embed index answer =>
      simp only [step?, embed?, bare]
      cases s.engine.workers[index]?.bind Worker.record? with
      | none => rfl
      | some r =>
          cases s.engine.work? index (.embedded answer) with
          | none => rfl
          | some engine => cases answer <;> rfl
  | upsert index id time =>
      simp only [step?, upsert?, bare]
      split
      · rename_i r v d _
        simp only [StoreCalls.logged]
        cases s.engine.work? index (.stored
          (calls.upsert s.engine.collection (Engine.pointOf id time r v) s.store.1).1) <;> rfl
      · rfl
  | lookup question vector => cases vector <;> rfl
  | shutdown => rfl
  | shutdownReturns =>
      rw [step?, step?, shutdownReturns?, shutdownReturns?, apply_ite (Option.map bare)]
      rfl

/-- A run over a store is one over the same store with a log, to which it adds something. -/
theorem exists_log {start s : Site σ} {actions : List Action} (log : List Deposit)
    (run : start.run? calls actions = some s) :
    ∃ after, (start.withLog log).run? calls.logged actions = some (s.withLog after) := by
  have along : (start.withLog log).bare.run? calls actions =
      ((start.withLog log).run? calls.logged actions).map bare :=
    Trace.run?_map _ step?_bare _ actions
  obtain ⟨logged, run', rfl⟩ := Option.map_eq_some_iff.mp (along.symm.trans run)
  exact ⟨logged.store.2, run'⟩

end Site

namespace Ledger

/-- The records whose writing ended at the store, with how it ended there. -/
def deposited (l : Ledger) : List (Nat × Metrics.Write) := l.ended.filter (·.2 ≠ .embedError)

/-- What a store was asked for a record whose writing ended there. -/
structure Brought (l : Ledger) (collection : String) (n : Nat) (write : Metrics.Write)
    (d : Deposit) : Prop where
  there : d.collection = collection
  answer : writeOf d.answer = write
  /-- The point carries the record whole, and no other was brought for it. -/
  record : ∃ r v, l.accepted[n]? = some r ∧ Carries d.point r v ∧
    l.callsOf n = [.embed r.prompt (.ok v), d.call]

/-- Entry by entry, the log of a store is what the account has of the records brought to it. -/
def Confirmed (l : Ledger) (collection : String) (log : List Deposit) : Prop :=
  List.Forall₂ (fun e d => l.Brought collection e.1 e.2 d) l.deposited log

/-- Each entry of the log is a call for the record that it stands for. -/
def Logged (l : Ledger) (log : List Deposit) : Prop :=
  List.Forall₂
    (fun e d => writeOf d.answer = e.2 ∧ d.call ∈ l.callsOf e.1)
    l.deposited log

variable {l : Ledger} {e : Engine} {index n : Nat} {c : Call} {d : Deposit}
  {log : List Deposit}

theorem mem_callsOf_call {own : Call} (made : own ∈ l.callsOf n) :
    own ∈ (l.call index c).callsOf n := by
  cases hand : l.inHand? index with
  | none => simpa [call, hand] using made
  | some m =>
      rw [callsOf_call l index m n c hand]
      exact List.mem_append_left _ made

theorem Logged.call (h : l.Logged log) : (l.call index c).Logged log := by
  rw [Logged, deposited, ended_call]
  exact h.imp fun _ _ entry => ⟨entry.1, mem_callsOf_call entry.2⟩

/-- A record that could not be embedded is not brought to the store. -/
theorem Logged.notEmbedded (h : l.Logged log) : (l.finish index .embedError).Logged log := by
  have same : (l.finish index .embedError).deposited = l.deposited := by
    unfold finish
    split <;> simp [deposited]
  simpa only [Logged, callsOf_finish, same] using h

/-- A record whose writing ends at the store is one more entry. -/
theorem Logged.brought (h : l.Logged log) (hand : l.inHand? index = some n) (d : Deposit) :
    ((l.call index d.call).finish index (writeOf d.answer)).Logged (log ++ [d]) := by
  have hand' : (l.call index d.call).inHand? index = some n := by rw [inHand?_call, hand]
  have reached : writeOf d.answer ≠ .embedError := by
    cases d.answer <;> exact nofun
  have made : d.call ∈ (l.call index d.call).callsOf n := by
    rw [callsOf_call l index n n _ hand, if_pos rfl]
    exact List.mem_append_right _ List.mem_cons_self
  have added : ((l.call index d.call).finish index (writeOf d.answer)).deposited =
      (l.call index d.call).deposited ++ [(n, writeOf d.answer)] := by
    simp [deposited, finish_of_inHand _ hand', reached]
  rw [Logged, added]
  simp only [callsOf_finish]
  exact List.rel_append h.call (.cons ⟨rfl, made⟩ .nil)

/-- The only call to the store for a record is the one by which its writing ended there. -/
theorem Called.brought {write : Metrics.Write} (called : l.Called e) (numbered : l.Numbered e)
    (ended : (n, write) ∈ l.ended) (answer : writeOf d.answer = write)
    (made : d.call ∈ l.callsOf n) : l.Brought e.collection n write d := by
  obtain ⟨name, point, given⟩ := d
  obtain ⟨r, taken, written⟩ := called.written n write ended
  have accepted : l.accepted[n]? = some r := by
    rw [numbered.accepted_getElem? (numbered.lt_of_ended ended), taken]
  generalize calls : l.callsOf n = all at made written
  cases written with
  | embedError f => cases List.mem_singleton.mp made
  | stored carries | upsertError carries f =>
      rcases List.mem_pair.mp made with other | same
      · cases other
      · cases same
        exact ⟨rfl, answer, r, _, accepted, carries, calls⟩

theorem Logged.confirmed (h : l.Logged log) (numbered : l.Numbered e) (called : l.Called e) :
    l.Confirmed e.collection log := by
  obtain ⟨length, entries⟩ := List.forall₂_iff_zip.mp h
  refine List.forall₂_iff_zip.mpr ⟨length, fun {entry d} member => ?_⟩
  obtain ⟨answer, made⟩ := entries member
  have ended := (List.mem_filter.mp (List.of_mem_zip member).1).1
  exact called.brought numbered ended answer made

end Ledger

namespace Site

variable {calls : StoreCalls σ}

/-- Every step keeps the log in agreement with the account. -/
theorem logged_step {s s' : Site (σ × List Deposit)} {a : Action}
    (h : s.ledger.Logged s.store.2) (numbered : s.ledger.Numbered s.engine)
    (step : Step calls.logged s a s') : s'.ledger.Logged s'.store.2 := by
  cases step with
  | accepted | dropped | turned | took | shutdown | shutdownReturned => exact h
  | embedded => exact h.call
  | notEmbedded => exact h.call.notEmbedded
  | @wrote index r v d id time stands =>
      obtain ⟨n, hand, -⟩ := numbered.inHand stands rfl
      exact h.brought hand ⟨s.engine.collection, Engine.pointOf id time r v, _⟩
  | @lookedUp question vector => cases vector <;> exact h

end Site

end AnswerGateway.Cache
