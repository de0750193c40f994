import AnswerGateway.Proofs.Cache.Advance
import AnswerGateway.Proofs.Trace

/-!
An engine at work, with whatever store it has and with an account of what became of its records.
Every action of a producer, a worker, a client or whoever stops the engine is one step, and a run is
any list of actions that can happen one after the other, so runs are the interleavings. What the
embedder answers is part of the action; what the store answers is up to the store, about which
nothing is assumed.

The account only watches: no step asks it anything. Records are known in it by their number in the
order of acceptance, because two records may be equal.
-/

namespace AnswerGateway.Cache

/-- The calls of an engine to a store. A store may keep whatever decides its next answers. -/
structure StoreCalls (σ : Type) where
  upsert : String → Store.Point → σ → Except Fault Unit × σ
  query : String → Store.Query → σ → Except Fault (List Store.ScoredPoint) × σ

def StoreCalls.memory : StoreCalls Store.Memory where
  upsert name point m := m.upsert name point
  query name question m := (m.query name question, m)

inductive Call where
  | embed (text : String) (answer : Except Fault Vector)
  | upsert (collection : String) (point : Store.Point) (answer : Except Fault Unit)
  deriving Repr

/-- What became of the records that were accepted. -/
structure Ledger where
  accepted : List Record := []
  taken : List Record := []
  /-- The number of the record that each worker has in hand. -/
  hands : List (Option Nat)
  /-- The calls that were made, with the number of the record for which they were made. -/
  calls : List (Nat × Call) := []
  ended : List (Nat × Metrics.Write) := []
  deriving Repr

namespace Ledger

def inHand? (l : Ledger) (index : Nat) : Option Nat := l.hands[index]?.join

def accept (l : Ledger) (r : Record) : Ledger := { l with accepted := l.accepted ++ [r] }

def take (l : Ledger) (index : Nat) (r : Record) : Ledger :=
  { l with taken := l.taken ++ [r], hands := l.hands.set index (some l.taken.length) }

def call (l : Ledger) (index : Nat) (c : Call) : Ledger :=
  match l.inHand? index with
  | some n => { l with calls := l.calls ++ [(n, c)] }
  | none => l

def finish (l : Ledger) (index : Nat) (w : Metrics.Write) : Ledger :=
  match l.inHand? index with
  | some n => { l with hands := l.hands.set index none, ended := l.ended ++ [(n, w)] }
  | none => l

def callsOf (l : Ledger) (n : Nat) : List Call :=
  l.calls.filterMap fun c => if c.1 = n then some c.2 else none

def count (l : Ledger) (w : Metrics.Write) : Nat := l.ended.countP (·.2 = w)

end Ledger

structure Site (σ : Type) where
  engine : Engine
  store : σ
  metrics : Metrics := {}
  waiting : Nat := 0
  returned : Nat := 0
  ledger : Ledger

inductive Action where
  | offer (r : Record)
  /-- A worker takes a step in which nobody outside has a part. -/
  | move (index : Nat) (event : Engine.Event)
  | embed (index : Nat) (answer : Except Fault Vector)
  | upsert (index : Nat) (id : String) (time : Json)
  /-- Somebody looks for an answer, and this is what the embedder made of the question. -/
  | lookup (question : LookupRequest) (vector : Except Fault Vector)
  | shutdown
  | shutdownReturns
  deriving Repr

def Action.isWork : Action → Bool
  | .move .. | .embed .. | .upsert .. => true
  | _ => false

/-- Whether nobody outside the engine has a part in an event. -/
def Engine.Event.isInside : Engine.Event → Bool
  | .embedded _ | .stored _ => false
  | _ => true

def writeOf : Except Fault Unit → Metrics.Write
  | .ok () => .stored
  | .error _ => .upsertError

namespace Site

variable {σ : Type}

def opened (engine : Engine) (store : σ) : Site σ :=
  { engine, store, ledger := { hands := engine.workers.map fun _ => none } }

def offer (s : Site σ) (r : Record) : Bool × Site σ :=
  let (accepted, engine) := s.engine.record r
  (accepted,
    { s with
      engine
      metrics := s.metrics.record (.enqueue accepted)
      ledger := if accepted then s.ledger.accept r else s.ledger })

def move? (s : Site σ) (index : Nat) (event : Engine.Event) : Option (Site σ) :=
  if event.isInside then do
    let engine ← s.engine.work? index event
    let ledger := match engine.workers[index]?.bind Worker.record? with
      | some r => s.ledger.take index r
      | none => s.ledger
    return { s with engine, ledger }
  else none

def embed? (s : Site σ) (index : Nat) (answer : Except Fault Vector) : Option (Site σ) := do
  let r ← s.engine.workers[index]?.bind Worker.record?
  let engine ← s.engine.work? index (.embedded answer)
  let ledger := s.ledger.call index (.embed r.prompt answer)
  match answer with
  | .ok _ => return { s with engine, ledger }
  | .error _ => return { s with
      engine
      metrics := s.metrics.record (.write .embedError)
      ledger := ledger.finish index .embedError }

def upsert? (calls : StoreCalls σ) (s : Site σ) (index : Nat) (id : String) (time : Json) :
    Option (Site σ) :=
  match s.engine.workers[index]? with
  | some (.storing r v _) => do
    let point := Engine.pointOf id time r v
    let (answer, store) := calls.upsert s.engine.collection point s.store
    let engine ← s.engine.work? index (.stored answer)
    return { s with
      engine
      store
      metrics := s.metrics.record (.write (writeOf answer))
      ledger := (s.ledger.call index (.upsert s.engine.collection point answer)).finish index
        (writeOf answer) }
  | _ => none

def lookup (calls : StoreCalls σ) (s : Site σ) (question : LookupRequest)
    (vector : Except Fault Vector) : Except Fault LookupResult × Site σ :=
  match vector with
  | .error f => (.error f, { s with metrics := s.metrics.record (.lookup .error) })
  | .ok v =>
    let (points, store) :=
      calls.query s.engine.collection (s.engine.lookupQuery question.model v) s.store
    let answer := points.map Engine.resultOf
    (answer, { s with store, metrics := s.metrics.record (Engine.lookupEvent answer) })

def shutdown (s : Site σ) : Site σ :=
  { s with engine := s.engine.shutdown, waiting := s.waiting + 1 }

def shutdownReturns? (s : Site σ) : Option (Site σ) :=
  if 0 < s.waiting && s.engine.stopped then
    some { s with waiting := s.waiting - 1, returned := s.returned + 1 }
  else none

/-- The site after an action; none if the action cannot happen now. -/
def step? (calls : StoreCalls σ) (s : Site σ) : Action → Option (Site σ)
  | .offer r => some (s.offer r).2
  | .move index event => s.move? index event
  | .embed index answer => s.embed? index answer
  | .upsert index id time => s.upsert? calls index id time
  | .lookup question vector => some (s.lookup calls question vector).2
  | .shutdown => some s.shutdown
  | .shutdownReturns => s.shutdownReturns?

def run? (calls : StoreCalls σ) (s : Site σ) (actions : List Action) : Option (Site σ) :=
  Trace.run? (step? calls) s actions

end Site

end AnswerGateway.Cache
