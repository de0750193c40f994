import AnswerGateway.Channel
import AnswerGateway.Completion.Reading

/-!
The pump reads a provider's answer and hands its chunks to a consumer through a channel. It reads
nothing while chunks wait to be handed over, so a slow consumer slows the provider down, and it
stops as soon as it notices that the consumer has gone. Before it reads it looks whether the
consumer is still there.
-/

namespace AnswerGateway.Completion

/-- The body of a provider's answer as far as it has not been read. A body that hangs delivers
nothing after its last read, not even its end. -/
structure Body where
  reads : List Read
  hangs : Bool := false
  deriving DecidableEq, Repr

def Body.next (b : Body) : Option (Read × Body) :=
  match b.reads with
  | r :: rest => some (r, { b with reads := rest })
  | [] => if b.hangs then none else some (.ended, b)

/-- A pump at work, or one that has stopped and let go of its body. -/
structure Pump where
  reading : Reading := {}
  /-- Chunks that have been read and not handed over. -/
  outbox : List Chunk := []
  body : Body
  stopped : Bool := false
  deriving DecidableEq, Repr

namespace Pump

def stop (p : Pump) (chunks : Channel Chunk) : Pump × Channel Chunk :=
  ({ p with outbox := [], stopped := true }, chunks.dropSender)

/-- One step of the pump, or `none` if it has stopped or has to wait. -/
def step (p : Pump) (chunks : Channel Chunk) : Option (Pump × Channel Chunk) :=
  if p.stopped then none
  else
    match p.outbox with
    | c :: rest =>
      match chunks.offer c with
      | .accepted chunks => some ({ p with outbox := rest }, chunks)
      | .full => none
      | .closed => some (p.stop chunks)
    | [] =>
      if p.reading.complete || chunks.receiverGone then some (p.stop chunks)
      else
        match p.body.next with
        | none => none
        | some (r, body) =>
          let (outbox, reading) := p.reading.read r
          some ({ p with reading, outbox, body }, chunks)

def run : Nat → Pump → Channel Chunk → Pump × Channel Chunk
  | 0, p, chunks => (p, chunks)
  | fuel + 1, p, chunks =>
    match p.step chunks with
    | some (p, chunks) => run fuel p chunks
    | none => (p, chunks)

/-- A bound on the steps until the pump has to wait or has stopped. Every read adds at most one
chunk for each of its bytes, and three more at the end. -/
def stepBound (p : Pump) : Nat :=
  let size : Read → Nat
    | .bytes bytes => bytes.length
    | _ => 0
  p.outbox.length + p.reading.buffer.pending.length +
    (p.body.reads.foldl (fun n r => n + size r + 2) 0) + 8

end Pump

end AnswerGateway.Completion
