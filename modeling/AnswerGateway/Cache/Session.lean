import AnswerGateway.Cache.Engine

/-!
An engine at work, with its embedder and its store. The workers take their steps one worker after
the other, each for as long as it can, until all of them wait. The embedder can be held back for a
while: then workers wait for their vectors, and no lookup is answered. The store can be made to
refuse calls.
-/

namespace AnswerGateway.Cache

structure StoreFaults where
  look : Option Fault := none
  create : Option Fault := none
  upsert : Option Fault := none
  query : Option Fault := none
  deriving Repr

def orRefuse {α : Type} (fault : Option Fault) (call : Except Fault α × Store.Memory)
    (m : Store.Memory) : Except Fault α × Store.Memory :=
  match fault with
  | some f => (.error f, m)
  | none => call

def StoreFaults.calls (faults : StoreFaults) : Store.Ensure.Calls (StateM Store.Memory) where
  look name := fun m => orRefuse faults.look (.ok (m.holds name), m) m
  create spec := fun m => orRefuse faults.create (m.create spec) m

structure Session where
  engine : Engine
  embed : String → Except Fault Vector
  held : Bool := false
  store : Store.Memory
  faults : StoreFaults := {}
  metrics : Metrics := {}
  /-- The id of the point that is stored next, by the number of steps before it. -/
  freshId : Nat → String
  steps : Nat := 0
  time : Json
  background : Bool := false

namespace Session

def count (s : Session) (event : Metrics.Event) : Session :=
  { s with metrics := s.metrics.record event }

def start (settings : Settings) (dimensions : Nat) (embed : String → Except Fault Vector)
    (store : Store.Memory) (faults : StoreFaults) (freshId : Nat → String) (time : Json) :
    Except Fault Session :=
  match (Engine.start faults.calls settings dimensions).run store with
  | (.ok (engine, _), store) => .ok { engine, embed, store, faults, freshId, time }
  | (.error f, _) => .error f

def upsert (s : Session) (r : Record) (v : Vector) : Except Fault Unit × Store.Memory :=
  orRefuse s.faults.upsert
    (s.store.upsert s.engine.collection
      (Engine.pointOf (s.freshId s.steps) s.time r v)) s.store

def nextEvent? (s : Session) (w : Worker) : Option (Engine.Event × Store.Memory) :=
  match w with
  | .waiting => some (if s.engine.stopping then .notice else .acquire, s.store)
  | .receiving => some (if s.engine.stopping then .notice else .receive, s.store)
  | .draining => some (.drain, s.store)
  | .embedding r _ => if s.held then none else some (.embedded (s.embed r.prompt), s.store)
  | .storing r v _ =>
    let (result, store) := s.upsert r v
    some (.stored result, store)
  | .exited => none

def workerStep (s : Session) (index : Nat) : Option Session := do
  let w ← s.engine.workers[index]?
  let (event, store) ← s.nextEvent? w
  let engine ← s.engine.work? index event
  let metrics := event.counted?.elim s.metrics s.metrics.record
  return { s with engine, store, metrics, steps := s.steps + 1 }

/-- A step of the first worker that can take one. -/
def step (s : Session) : Option Session :=
  (List.range s.engine.workers.length).findSome? s.workerStep

def runFor : Nat → Session → Session
  | 0, s => s
  | fuel + 1, s =>
    match s.step with
    | some s => runFor fuel s
    | none => s

/-- A bound on the steps until all workers wait: a record in the queue takes at most five, one in
the hands of a worker four, and each worker goes in three. -/
def stepBound (s : Session) : Nat := 5 * s.engine.queue.length + 8 * s.engine.workers.length + 1

def settle (s : Session) : Session := s.runFor s.stepBound

/-- Offers a record; the workers are not at work meanwhile. -/
def offer (s : Session) (r : Record) : Bool × Session :=
  let (accepted, engine) := s.engine.record r
  (accepted, { s with engine }.count (.enqueue accepted))

def record (s : Session) (r : Record) : Bool × Session :=
  let (accepted, s) := s.offer r
  (accepted, s.settle)

/-- Offers records one right after the other, and then lets the workers work. -/
def burst (s : Session) (rs : List Record) : List Bool × Session :=
  let (accepted, s) := rs.foldl (fun (accepted, s) r =>
    let (a, s) := s.offer r
    (accepted ++ [a], s)) ([], s)
  (accepted, s.settle)

def answerTo (s : Session) (prompt model : String) : Except Fault LookupResult := do
  let v ← s.embed prompt
  match s.faults.query with
  | some f => throw f
  | none =>
    return Engine.resultOf (← s.store.query s.engine.collection (s.engine.lookupQuery model v))

/-- A lookup; none while the embedder is held back. -/
def lookup (s : Session) (prompt model : String) :
    Option (Except Fault LookupResult) × Session :=
  if s.held then (none, s)
  else
    let answer := s.answerTo prompt model
    (some answer, s.count (Engine.lookupEvent answer))

/-- Begins a shutdown and lets the workers work; says whether it is complete. -/
def shutdown (s : Session) : Bool × Session :=
  let s : Session := { s with engine := s.engine.shutdown }
  let s := s.settle
  let stopped := s.engine.stopped
  (stopped, { s with background := s.background || !stopped })

/-- Whether the shutdown in the background is complete; none if there is none. -/
def stopped? (s : Session) : Option Bool := if s.background then some s.engine.stopped else none

def pause (s : Session) : Session := { s with held := true }

def resume (s : Session) : Session := settle { s with held := false }

def put (s : Session) (collection : String) (p : Store.Point) : Except Fault Unit × Session :=
  let (r, store) := s.store.upsert collection p
  (r, { s with store })

end Session

end AnswerGateway.Cache
