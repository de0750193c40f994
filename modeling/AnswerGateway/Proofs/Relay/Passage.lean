import AnswerGateway.Proofs.Trace
import AnswerGateway.Relay.Path

/-!
A path while it is used, with an account of what has gone through it. The source of the chunks, the
run and the client each take their steps when they like, and the client may leave at any moment; a
run of the passage is any order of such steps. The source is the pump of the path, or whoever feeds
it from outside if it has none. No step asks the account anything.
-/

namespace AnswerGateway.Relay

open Completion

structure Passage where
  path : Path
  /-- The chunks that have come into the channel to the run. -/
  arrived : List Chunk := []
  consumed : List Chunk := []
  taken : List Frame := []

namespace Passage

inductive Action where
  | pump
  | run
  | take
  /-- The run is told that the client has left. -/
  | cancel
  /-- The client lets go of the frames. -/
  | close
  /-- Somebody who feeds the path sends a chunk. -/
  | feed (c : Chunk)
  | hangUp
  deriving DecidableEq, Repr

/-- Whether an action carries something towards the client. -/
def Action.isWork : Action → Bool
  | .pump | .run | .take => true
  | _ => false

/-- Whether the client leaves by an action. -/
def Action.leaves : Action → Bool
  | .cancel | .close => true
  | _ => false

/-- The chunk that the next step of the run takes, if it takes one. -/
def awaited (p : Path) : List Chunk :=
  if p.run.outcome.isNone && p.run.pending.isEmpty && p.run.following = .more && !p.cancelled then
    p.chunks.items.take 1
  else []

def pump? (p : Passage) : Option Passage :=
  p.path.pumpStep.map fun path =>
    { p with
      path
      arrived := p.arrived ++ path.chunks.items.drop p.path.chunks.items.length }

def advance? (p : Passage) : Option Passage :=
  p.path.runStep.map fun path => { p with path, consumed := p.consumed ++ awaited p.path }

def take? (p : Passage) : Option Passage :=
  match receive p.path.frames with
  | (.item f, frames) => some { p with path := { p.path with frames }, taken := p.taken ++ [f] }
  | _ => none

def feed? (p : Passage) (c : Chunk) : Option Passage :=
  if p.path.pump.isNone && !p.path.chunks.senderGone then
    match p.path.chunks.offer c with
    | .accepted chunks =>
      some { p with path := { p.path with chunks }, arrived := p.arrived ++ [c] }
    | _ => none
  else none

def hangUp? (p : Passage) : Option Passage :=
  if p.path.pump.isNone then
    some { p with path := { p.path with chunks := p.path.chunks.dropSender } }
  else none

/-- The passage after an action; none if the action cannot happen now. -/
def step? (p : Passage) : Action → Option Passage
  | .pump => p.pump?
  | .run => p.advance?
  | .take => p.take?
  | .cancel => some { p with path := { p.path with cancelled := true } }
  | .close => some { p with path := { p.path with frames := p.path.frames.dropReceiver } }
  | .feed c => p.feed? c
  | .hangUp => p.hangUp?

def run? (p : Passage) (actions : List Action) : Option Passage := Trace.run? step? p actions

end Passage

/-- A path whose run has ended so: it lets go of both channels. -/
def Path.endRun (p : Path) (r : Run) : Path :=
  { p with
    run := r
    chunks := if r.source = .provider then p.chunks.dropReceiver else p.chunks
    frames := p.frames.dropSender }

namespace Passage

/-- A step: who moves, why it can and what the passage is then. -/
inductive Step (p : Passage) : Action → Passage → Prop where
  | offered {pump : Pump} {c : Chunk} {rest : List Chunk} (works : p.path.pump = some pump)
      (alive : pump.stopped = false) (next : pump.outbox = c :: rest)
      (present : p.path.chunks.receiverGone = false)
      (room : p.path.chunks.items.length < p.path.chunks.capacity) :
      Step p .pump
        { p with
          path := { p.path with
            pump := some { pump with outbox := rest }
            chunks := { p.path.chunks with items := p.path.chunks.items ++ [c] } }
          arrived := p.arrived ++ [c] }
  | stopped {pump : Pump} (works : p.path.pump = some pump) (alive : pump.stopped = false)
      (why : (pump.outbox = [] ∧ pump.reading.complete = true) ∨
        p.path.chunks.receiverGone = true) :
      Step p .pump
        { p with
          path := { p.path with
            pump := some { pump with outbox := [], stopped := true }
            chunks := p.path.chunks.dropSender } }
  | read {pump : Pump} {x : Read} {body : Body} (works : p.path.pump = some pump)
      (alive : pump.stopped = false) (empty : pump.outbox = [])
      (progress : pump.reading.complete = false) (next : pump.body.next = some (x, body)) :
      Step p .pump
        { p with
          path := { p.path with
            pump := some { pump with
              reading := (pump.reading.read x).2
              outbox := (pump.reading.read x).1
              body } } }
  | handed {f : Frame} {rest : List Frame} (alive : p.path.run.outcome = none)
      (next : p.path.run.pending = f :: rest) (stays : p.path.cancelled = false)
      (present : p.path.frames.receiverGone = false)
      (room : p.path.frames.items.length < p.path.frames.capacity) :
      Step p .run
        { p with
          path := { p.path with
            run := { p.path.run with pending := rest, answer := p.path.run.answer ++ f.text }
            frames := { p.path.frames with items := p.path.frames.items ++ [f] } } }
  | lost {f : Frame} {rest : List Frame} (alive : p.path.run.outcome = none)
      (next : p.path.run.pending = f :: rest)
      (gone : p.path.cancelled = true ∨ p.path.frames.receiverGone = true) :
      Step p .run { p with path := p.path.endRun (p.path.run.endWithout f) }
  | completed {tokens : UInt32} (alive : p.path.run.outcome = none)
      (empty : p.path.run.pending = []) (last : p.path.run.following = .complete tokens) :
      Step p .run { p with path := p.path.endRun (p.path.run.finish .completed tokens) }
  | left (alive : p.path.run.outcome = none) (empty : p.path.run.pending = [])
      (more : p.path.run.following = .more) (gone : p.path.cancelled = true) :
      Step p .run { p with path := p.path.endRun (p.path.run.finish .clientGone 0) }
  | took {c : Chunk} {rest : List Chunk} (alive : p.path.run.outcome = none)
      (empty : p.path.run.pending = []) (more : p.path.run.following = .more)
      (stays : p.path.cancelled = false) (next : p.path.chunks.items = c :: rest)
      (fine : c.error = none) :
      Step p .run
        { p with
          path := { p.path with
            run := p.path.run.takeChunk c
            chunks := { p.path.chunks with items := rest } }
          consumed := p.consumed ++ [c] }
  | failed {c : Chunk} {rest : List Chunk} {message : String}
      (alive : p.path.run.outcome = none) (empty : p.path.run.pending = [])
      (more : p.path.run.following = .more) (stays : p.path.cancelled = false)
      (next : p.path.chunks.items = c :: rest) (error : c.error = some message) :
      Step p .run
        { p with
          path := { p.path with chunks := { p.path.chunks with items := rest } }.endRun
            (p.path.run.finish (.providerError message) 0)
          consumed := p.consumed ++ [c] }
  | unterminated (alive : p.path.run.outcome = none) (empty : p.path.run.pending = [])
      (more : p.path.run.following = .more) (stays : p.path.cancelled = false)
      (next : p.path.chunks.items = []) (closes : p.path.chunks.senderGone = true) :
      Step p .run
        { p with
          path := p.path.endRun (p.path.run.finish (.providerError Run.unterminated) 0) }
  | taken {f : Frame} {rest : List Frame} (present : p.path.frames.receiverGone = false)
      (next : p.path.frames.items = f :: rest) :
      Step p .take
        { p with
          path := { p.path with frames := { p.path.frames with items := rest } }
          taken := p.taken ++ [f] }
  | cancelled : Step p .cancel { p with path := { p.path with cancelled := true } }
  | closed : Step p .close
      { p with path := { p.path with frames := p.path.frames.dropReceiver } }
  | fed {c : Chunk} (unpumped : p.path.pump = none) (alive : p.path.chunks.senderGone = false)
      (present : p.path.chunks.receiverGone = false)
      (room : p.path.chunks.items.length < p.path.chunks.capacity) :
      Step p (.feed c)
        { p with
          path := { p.path with
            chunks := { p.path.chunks with items := p.path.chunks.items ++ [c] } }
          arrived := p.arrived ++ [c] }
  | hungUp (unpumped : p.path.pump = none) :
      Step p .hangUp { p with path := { p.path with chunks := p.path.chunks.dropSender } }

end Passage

end AnswerGateway.Relay
