import AnswerGateway.Json.TextFormat
import AnswerGateway.Text.Blank

/-!
A provider's answer as server-sent events: bytes are cut into lines, and a line may carry a piece
of the answer, an error, or the end. Lines that mean nothing to the gateway are skipped, which
includes every line that is not valid; a provider may add fields and comments at will.
-/

namespace AnswerGateway.Completion

open Json Json.Format

def lineFeed : UInt8 := 10

def carriageReturn : UInt8 := 13

/-- A line without the carriage return at its end. -/
def dropReturn (line : List UInt8) : List UInt8 :=
  match line.reverse with
  | b :: rest => if b = carriageReturn then rest.reverse else line
  | [] => []

/-- The bytes of the unfinished line, the last one first. -/
structure LineBuffer where
  pending : List UInt8 := []
  deriving DecidableEq, Repr

namespace LineBuffer

/-- Takes the bytes of one read, in order, and collects the lines they complete; `lines` holds the
lines before, the last one first. -/
def pushFrom : List UInt8 → LineBuffer → List String → List String × LineBuffer
  | [], buffer, lines => (lines.reverse, buffer)
  | b :: rest, buffer, lines =>
    if b = lineFeed then
      pushFrom rest {} (Text.decodeLossy (dropReturn buffer.pending.reverse) :: lines)
    else pushFrom rest { pending := b :: buffer.pending } lines

/-- Takes the bytes of one read. The result are the lines that they complete, without their ends,
and the buffer behind them. -/
def push (buffer : LineBuffer) (bytes : List UInt8) : List String × LineBuffer :=
  pushFrom bytes buffer []

/-- What is left when no more bytes come, without blanks at either end; nothing if that is empty. -/
def finish (buffer : LineBuffer) : Option String :=
  let rest := Text.trim (Text.decodeLossy buffer.pending.reverse)
  if rest.isEmpty then none else some rest

end LineBuffer

inductive Line where
  | skip
  | done
  | error (message : String)
  | data (content : Option String) (finished : Bool) (totalTokens : Option UInt32)
  deriving DecidableEq, Repr

/-- What a provider sends of one of the answers that it streams together. -/
structure StreamChoice where
  content : Option String := none
  finishReason : Option String := none

structure StreamChunk where
  choices : List StreamChoice := []
  totalTokens : Option UInt32 := none
  error : Option String := none

namespace StreamChunk

def delta {D : Type → Type} [Format D] : D (Option String) :=
  record "StreamDelta" none [nullable "content" text fun v _ => v]

def choice {D : Type → Type} [Format D] : D StreamChoice :=
  record "StreamChoice" {}
    [ nullable "delta" delta fun v c => { c with content := v.join },
      nullable "finish_reason" text fun v c => { c with finishReason := v } ]

def usage {D : Type → Type} [Format D] : D UInt32 :=
  record "StreamUsage" 0 [defaulted "total_tokens" word32 fun v _ => v]

def errorMessage {D : Type → Type} [Format D] : D String :=
  record "StreamError" "" [defaulted "message" text fun v _ => v]

def format {D : Type → Type} [Format D] : D StreamChunk :=
  record "StreamChunk" {}
    [ defaulted "choices" (Format.list choice) fun v c => { c with choices := v },
      nullable "usage" usage fun v c => { c with totalTokens := v },
      nullable "error" errorMessage fun v c => { c with error := v } ]

/-- What an event means. Only the first of the answers counts; an error counts more than it. -/
def line (c : StreamChunk) : Line :=
  match c.error with
  | some message => .error message
  | none =>
    let first := c.choices.head?
    .data ((first.bind StreamChoice.content).filter (!·.isEmpty))
      ((first.bind StreamChoice.finishReason).any (!·.isEmpty))
      (c.totalTokens.filter (0 < ·))

end StreamChunk

def behind? (start : List Char) (line : List Char) : Option (List Char) :=
  if start.isPrefixOf line then some (line.drop start.length) else none

def dataMark : List Char := "data:".toList

def doneMark : String := "[DONE]"

def Line.of (line : String) : Line :=
  match behind? dataMark line.toList with
  | none => .skip
  | some rest =>
    let payload := String.ofList (Text.stripWhere Text.isBlank rest)
    if payload = doneMark then .done
    else
      match decodeText StreamChunk.format payload with
      | .ok chunk => chunk.line
      | .error _ => .skip

end AnswerGateway.Completion
