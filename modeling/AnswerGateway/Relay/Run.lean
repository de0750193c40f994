import AnswerGateway.Cache.Record
import AnswerGateway.Channel
import AnswerGateway.Completion.Chunk
import AnswerGateway.Metrics.Basic
import AnswerGateway.Relay.Frame
import AnswerGateway.Relay.Outcome
import AnswerGateway.Relay.Request

/-!
Answering a prepared request. A run turns chunks into frames and hands them over one at a time. It
looks before each wait whether the client has left. What it has handed over is the answer; the end
of the run says what became of it and whether it is submitted to the cache.
-/

namespace AnswerGateway.Relay

/-- What comes after the frames that are waiting to be handed over. -/
inductive Following where
  | more
  /-- Nothing: the answer is complete, with so many tokens. -/
  | complete (tokenUsage : UInt32)
  deriving DecidableEq, Repr

structure Run where
  request : RelayRequest
  policy : WriteBack
  source : Source
  /-- Frames to be handed over, in order. -/
  pending : List Frame := []
  following : Following
  answer : String := ""
  outcome : Option Outcome := none
  deriving DecidableEq, Repr

namespace Run

def replayFrames (answer : String) (size : Nat) : List Frame :=
  (pieces answer size).map Frame.delta ++ [.finish, .done]

def ofKept (request : RelayRequest) (policy : WriteBack) (answer : String) (size : Nat) : Run :=
  { request, policy, source := .cache,
    pending := replayFrames answer size, following := .complete 0 }

def ofStream (request : RelayRequest) (policy : WriteBack) : Run :=
  { request, policy, source := .provider, following := .more }

def submits (r : Run) (termination : Termination) : Bool :=
  r.source = .provider && !r.answer.isEmpty && r.policy.allows termination

def finish (r : Run) (termination : Termination) (tokenUsage : UInt32) : Run :=
  { r with
    pending := []
    outcome := some
      { source := r.source, termination, answer := r.answer, tokenUsage
        writeBack := r.submits termination } }

/-- The end that it means when a frame cannot be handed over. A provider's answer is complete once
its last piece is handed over, even if the client does not wait for the end of the stream. -/
def endWithout (r : Run) (frame : Frame) : Run :=
  match r.source, r.following, frame with
  | .provider, .complete tokens, .finish | .provider, .complete tokens, .done =>
    r.finish .completed tokens
  | _, _, _ => r.finish .clientGone 0

def takeChunk (r : Run) (c : Chunk) : Run :=
  match c.error with
  | some message => r.finish (.providerError message) 0
  | none =>
    { r with
      pending := (if c.content.isEmpty then [] else [.delta c.content]) ++
        (if c.done then [.finish, .done] else [])
      following := if c.done then .complete c.tokenUsage else .more }

/-- How an answer ends whose stream ends without a last chunk. -/
def unterminated : String := "upstream stream ended without a terminal chunk"

def letGo (r : Run) (chunks : Channel Chunk) (frames : Channel Frame) :
    Run × Channel Chunk × Channel Frame :=
  if r.outcome.isSome then
    (r, if r.source = .provider then chunks.dropReceiver else chunks, frames.dropSender)
  else (r, chunks, frames)

/-- One step, or none if the run has ended or has to wait. -/
def step (r : Run) (cancelled : Bool) (chunks : Channel Chunk) (frames : Channel Frame) :
    Option (Run × Channel Chunk × Channel Frame) :=
  if r.outcome.isSome then none
  else
    match r.pending with
    | f :: rest =>
      if cancelled then some ((r.endWithout f).letGo chunks frames)
      else
        match frames.offer f with
        | .accepted frames =>
          some ({ r with pending := rest, answer := r.answer ++ f.text }, chunks, frames)
        | .full => none
        | .closed => some ((r.endWithout f).letGo chunks frames)
    | [] =>
      match r.following with
      | .complete tokens => some ((r.finish .completed tokens).letGo chunks frames)
      | .more =>
        if cancelled then some ((r.finish .clientGone 0).letGo chunks frames)
        else
          match chunks.take with
          | .item c chunks => some ((r.takeChunk c).letGo chunks frames)
          | .empty => none
          | .ended => some ((r.finish (.providerError unterminated) 0).letGo chunks frames)

/-- The record that an ended run submits to the cache, if it submits one. -/
def submission? (r : Run) : Option Cache.Record :=
  match r.outcome with
  | some o =>
    if o.writeBack then
      some { prompt := r.request.prompt, response := o.answer, model := r.request.model
             tokenUsage := o.tokenUsage }
    else none
  | none => none

end Run

def Outcome.event (o : Outcome) : Metrics.Event :=
  .relay o.source.name o.termination.name o.tokenUsage.toNat

structure Dialog where
  model : String
  source : Source
  termination : Termination
  promptTail : String
  answerHead : String
  deriving DecidableEq, Repr

/-- How many characters of a question and of an answer a summary shows. -/
def previewLength : Nat := 100

def Run.dialog? (r : Run) : Option Dialog :=
  r.outcome.map fun o =>
    let prompt := r.request.prompt.toList
    { model := r.request.model, source := o.source, termination := o.termination
      promptTail := String.ofList (prompt.drop (prompt.length - previewLength))
      answerHead := String.ofList (o.answer.toList.take previewLength) }

end AnswerGateway.Relay
