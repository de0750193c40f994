import AnswerGateway.Completion.Provider
import AnswerGateway.Completion.Stream
import AnswerGateway.Relay.Prepare
import AnswerGateway.Relay.Run

/-!
The path of an answer: a source of chunks, the run that turns them into frames, and the client at
the end. The parties are joined by two bounded channels, so the client's pace is everybody's pace.
-/

namespace AnswerGateway.Relay

open Completion

/-- The parties on a path and the channels between them. A path without a pump is fed from
outside. -/
structure Path where
  pump : Option Pump := none
  chunks : Channel Chunk
  run : Run
  frames : Channel Frame
  /-- Whether the run has been told that the client left. -/
  cancelled : Bool := false
  deriving DecidableEq, Repr

namespace Path

def pumpStep (p : Path) : Option Path := do
  let (pump, chunks) ← (← p.pump).step p.chunks
  return { p with pump := some pump, chunks }

def runStep (p : Path) : Option Path := do
  let (run, chunks, frames) ← p.run.step p.cancelled p.chunks p.frames
  return { p with run, chunks, frames }

def step (p : Path) : Option Path := p.runStep <|> p.pumpStep

def runFor : Nat → Path → Path
  | 0, p => p
  | fuel + 1, p =>
    match p.step with
    | some p => runFor fuel p
    | none => p

/-- A bound on the steps until both wait: every chunk is offered, taken, and makes at most three
frames, after which the run ends. -/
def stepBound (p : Path) : Nat :=
  6 * (p.chunks.items.length + (p.pump.elim 0 Pump.stepBound)) + p.run.pending.length + 6

def settle (p : Path) : Path := p.runFor p.stepBound

def ended (p : Path) : Bool := p.run.outcome.isSome

def cancel (p : Path) : Path := settle { p with cancelled := true }

def dropFrames (p : Path) : Path := settle { p with frames := p.frames.dropReceiver }

def send (act : SenderAct) (p : Path) : SenderNews × Path :=
  let (news, chunks) := act.apply p.chunks
  (news, settle { p with chunks })

def takeFrame (p : Path) : ConsumerNews Frame × Path :=
  let (news, frames) := receive p.frames
  (news, settle { p with frames })

/-- The client takes frames until there are no more, at most so many. -/
def drainUpTo : Nat → Path → List Frame × ConsumerNews Frame × Path
  | 0, p => ([], .pending, p)
  | fuel + 1, p =>
    match p.takeFrame with
    | (.item f, p) =>
      let (more, last, p) := drainUpTo fuel p
      (f :: more, last, p)
    | (news, p) => ([], news, p)

/-- The client takes frames until there are no more. -/
def drain (p : Path) : List Frame × ConsumerNews Frame × Path :=
  p.drainUpTo (p.stepBound + p.frames.items.length + 1)

/-- The client takes at most so many frames; says too whether there are no more. -/
def readUpTo : Nat → Path → List Frame × Bool × Path
  | 0, p => ([], false, p)
  | limit + 1, p =>
    match p.takeFrame with
    | (.item f, p) =>
      let (more, ended, p) := readUpTo limit p
      (f :: more, ended, p)
    | (.closed, p) => ([], true, p)
    | (_, p) => ([], false, p)

/-- The client leaves: it lets go of the frames, and the run is told. -/
def leave (p : Path) : Path :=
  settle { p with cancelled := true, frames := p.frames.dropReceiver }

def frameCapacity : Nat := 1

def ofPrepared (policy : WriteBack) (replaySize : Nat) (p : Prepared Body) : Path :=
  match p.origin with
  | .kept answer =>
    { chunks := .withCapacity Provider.streamCapacity
      run := .ofKept p.request policy answer replaySize
      frames := .withCapacity frameCapacity }
  | .stream body =>
    { pump := some { body }
      chunks := .withCapacity Provider.streamCapacity
      run := .ofStream p.request policy
      frames := .withCapacity frameCapacity }

end Path

end AnswerGateway.Relay
