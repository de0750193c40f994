import AnswerGateway.Cache.Record
import AnswerGateway.Cache.Settings
import AnswerGateway.Metrics.Basic
import AnswerGateway.Store.Ensure

/-!
The cache engine. Lookups are answered at once; records wait in a bounded queue for one of a fixed
number of workers, each of which embeds the question and puts the answer into the store. A record
that finds the queue full is dropped. The workers share the queue: at most one of them holds it
while it waits for a record. After a shutdown no record is accepted, and the workers finish what is
left before they go.
-/

namespace AnswerGateway.Cache

/-- Where a worker stands. -/
inductive Worker where
  | waiting
  | receiving
  /-- It has noticed the shutdown and takes what is left in the queue. -/
  | draining
  | embedding (record : Record) (draining : Bool)
  | storing (record : Record) (vector : Vector) (draining : Bool)
  | exited
  deriving DecidableEq, Repr

def Worker.record? : Worker → Option Record
  | .embedding record _ | .storing record _ _ => some record
  | _ => none

def Worker.next (draining : Bool) : Worker := if draining then .draining else .waiting

structure Engine where
  collection : String
  threshold : Float32
  capacity : Nat
  stopping : Bool := false
  /-- Records that wait, the oldest first. -/
  queue : List Record := []
  workers : List Worker
  deriving DecidableEq, Repr

namespace Engine

def wrongDimensions (got expected : Nat) : Fault :=
  .configuration ("Embedding provider returns " ++ toString got ++
    " dimensions but the cache collection expects " ++ toString expected)

def collectionSpec (settings : Settings) : Store.CollectionSpec :=
  ⟨settings.collection, settings.dimensions.toNat⟩

def idle (settings : Settings) : Engine :=
  { collection := settings.collection
    threshold := settings.threshold
    capacity := settings.queueCapacity.toNat
    workers := List.replicate settings.workers.toNat .waiting }

/-- Starts an engine: its settings must be valid, the embedder must give vectors of the right
length, and the collection must be there or be created. Says whether it was created. -/
def start {m : Type → Type} [Monad m] (calls : Store.Ensure.Calls m) (settings : Settings)
    (dimensions : Nat) : m (Except Fault (Engine × Bool)) :=
  match settings.validate with
  | .error f => return .error f
  | .ok () =>
    if dimensions ≠ settings.dimensions.toNat then
      return .error (wrongDimensions dimensions settings.dimensions.toNat)
    else do
      match ← Store.Ensure.run calls (collectionSpec settings) with
      | .error f => return .error f
      | .ok created => return .ok (idle settings, created)

/-- Offers a record: whether it is accepted. -/
def record (e : Engine) (r : Record) : Bool × Engine :=
  if e.stopping || e.capacity ≤ e.queue.length then (false, e)
  else (true, { e with queue := e.queue ++ [r] })

def shutdown (e : Engine) : Engine := { e with stopping := true }

def stopped (e : Engine) : Bool := e.stopping && e.workers.all (· = .exited)

def isHeld (e : Engine) : Bool := e.workers.contains .receiving

/-- What a worker may do next. -/
inductive Event where
  | acquire
  /-- It takes a record, or learns that none will come. -/
  | receive
  | notice
  /-- It takes one of the records that are left, or goes. -/
  | drain
  | embedded (result : Except Fault Vector)
  | stored (result : Except Fault Unit)
  deriving Repr

/-- A worker after an event, with the queue; none if the event cannot happen now. -/
def event? (e : Engine) (w : Worker) : Event → Option (Worker × List Record)
  | .acquire =>
    match w with
    | .waiting => if e.isHeld then none else some (.receiving, e.queue)
    | _ => none
  | .receive =>
    match w, e.queue with
    | .receiving, r :: rest => some (.embedding r false, rest)
    | .receiving, [] => if e.stopping then some (.exited, []) else none
    | _, _ => none
  | .notice =>
    match w with
    | .waiting | .receiving => if e.stopping then some (.draining, e.queue) else none
    | _ => none
  | .drain =>
    if e.isHeld then none
    else
      match w, e.queue with
      | .draining, r :: rest => some (.embedding r true, rest)
      | .draining, [] => some (.exited, [])
      | _, _ => none
  | .embedded result =>
    match w, result with
    | .embedding r draining, .ok v => some (.storing r v draining, e.queue)
    | .embedding _ draining, .error _ => some (.next draining, e.queue)
    | _, _ => none
  | .stored _ =>
    match w with
    | .storing _ _ draining => some (.next draining, e.queue)
    | _ => none

def work? (e : Engine) (index : Nat) (event : Event) : Option Engine := do
  let (worker, queue) ← e.event? (← e.workers[index]?) event
  return { e with queue, workers := e.workers.set index worker }

def inFlight (e : Engine) : List Record := e.workers.filterMap Worker.record?

def Event.counted? : Event → Option Metrics.Event
  | .embedded (.error _) => some (.write .embedError)
  | .stored (.error _) => some (.write .upsertError)
  | .stored (.ok ()) => some (.write .stored)
  | _ => none

/-- The point by which a record is kept, under a fresh id and with the time in seconds. -/
def pointOf (id : String) (time : Json) (r : Record) (v : Vector) : Store.Point :=
  { id, vector := v
    payload :=
      [("answer", .str r.response), ("model", .str r.model), ("question", .str r.prompt),
        ("timestamp", time), ("tokenUsage", Json.ofUInt32 r.tokenUsage)] }

def lookupQuery (e : Engine) (model : String) (v : Vector) : Store.Query :=
  { vector := v, filter := Store.Filter.must {} "model" model, threshold := e.threshold }

/-- What a lookup makes of the points that were found. A point without an answer is no hit. -/
def resultOf (points : List Store.ScoredPoint) : LookupResult :=
  match points.head?.bind (·.payload.text? "answer") with
  | some answer => .found answer
  | none => .miss

def lookupEvent : Except Fault LookupResult → Metrics.Event
  | .ok r => .lookup (if r.hit then .hit else .miss)
  | .error _ => .lookup .error

end Engine

end AnswerGateway.Cache
