import AnswerGateway.Http.Gateway

/-!
A whole exchange: a request is answered, the client reads as much of the reply as it wants and
leaves, and what was answered is counted and offered to the cache.
-/

namespace AnswerGateway.Http

open Completion

inductive Read where
  | text (text : String)
  /-- The events, and whether there are no more. -/
  | events (events : List String) (ended : Bool)
  deriving DecidableEq, Repr

structure Manner where
  writeBack : Relay.WriteBack
  replaySize : Nat
  stamp : Chat.Stamp

/-- An exchange as the client sees it, and what is left of the path of its answer. -/
structure Exchange where
  reply : Reply Read
  path : Option Relay.Path

/-- The path of an answer once the client has read so many events, or all, and has left. -/
def readAnswer (manner : Manner) (limit : Option Nat) (p : Relay.Prepared Body) :
    List Relay.Frame × Bool × Relay.Path :=
  let path := (Relay.Path.ofPrepared manner.writeBack manner.replaySize p).settle
  let (frames, ended, path) := path.readUpTo (limit.getD (path.stepBound + 2))
  (frames, ended, path.leave)

variable {m : Type → Type} [Monad m]

def settleRun (b : Backend m Body) (run : Relay.Run) : m Unit := do
  match run.outcome with
  | some outcome => b.count outcome.event
  | none => pure ()
  match run.submission? with
  | some record => do
    let _ ← b.record record
  | none => pure ()

def readReply (b : Backend m Body) (manner : Manner) (limit : Option Nat)
    (reply : Reply (Content Body)) : m Exchange :=
  match reply.content with
  | .text text => return ⟨reply.withContent (.text text), none⟩
  | .mock model =>
    let frames := match limit with
      | some n => mockFrames.take n
      | none => mockFrames
    let events := frames.map (frameEvent manner.stamp model)
    return ⟨reply.withContent (.events events (limit.all (mockFrames.length < ·))), none⟩
  | .answer prepared => do
    let (frames, ended, path) := readAnswer manner limit prepared
    settleRun b path.run
    let events := frames.map (frameEvent manner.stamp prepared.request.model)
    return ⟨reply.withContent (.events events ended), some path⟩

def exchange (service : Service m Body) (b : Backend m Body) (manner : Manner)
    (limit : Option Nat) (r : Request) : m Exchange := do
  readReply b manner limit (← service.respond r)

end AnswerGateway.Http
