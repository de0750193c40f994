import AnswerGateway.Chat.Message

/-!
The events of a streamed answer, as the client reads them.
-/

namespace AnswerGateway.Chat

open Json Json.Format

inductive FinishReason where
  | stop | length
  deriving DecidableEq, Repr

namespace FinishReason

def name : FinishReason → String
  | .stop => "stop"
  | .length => "length"

def format {D : Type → Type} [Format D] : D FinishReason :=
  choice "FinishReason" [("stop", .stop), ("length", .length)]

end FinishReason

structure Delta where
  role : Option Role := none
  content : Option String := none
  deriving DecidableEq, Repr

namespace Delta

def format {D : Type → Type} [Format D] : D Delta :=
  record "DeltaContent" {}
    [ nullable "role" Role.format fun v d => { d with role := v },
      nullable "content" text fun v d => { d with content := v } ]

open JsonText in
def write (d : Delta) : List Char :=
  object (fieldIfSome "role" (fun r => quote (Role.name r)) d.role ++
    fieldIfSome "content" quote d.content)

end Delta

/-- One of the answers that are streamed together; the gateway streams one. -/
structure Choice where
  index : UInt32 := 0
  delta : Delta := {}
  finishReason : Option FinishReason := none
  deriving DecidableEq, Repr

namespace Choice

def format {D : Type → Type} [Format D] : D Choice :=
  record "ChatCompletionStreamChoice" {}
    [ required "index" word32 fun v c => { c with index := v },
      required "delta" Delta.format fun v c => { c with delta := v },
      nullable "finish_reason" FinishReason.format fun v c => { c with finishReason := v } ]

open JsonText in
def write (c : Choice) : List Char :=
  object (field "index" (natural c.index.toNat) ++ field "delta" c.delta.write ++
    field "finish_reason" (orNull (fun r => quote (FinishReason.name r)) c.finishReason))

end Choice

structure Event where
  id : String
  object : String
  created : Int64
  model : String
  choices : List Choice
  deriving DecidableEq, Repr

structure Stamp where
  nanoseconds : Int64
  seconds : Int64
  deriving DecidableEq, Repr

namespace Event

def format {D : Type → Type} [Format D] : D Event :=
  record "ChatCompletionStreamResponse"
    { id := "", object := "", created := 0, model := "", choices := [] }
    [ required "id" text fun v e => { e with id := v },
      required "object" text fun v e => { e with object := v },
      required "created" int64 fun v e => { e with created := v },
      required "model" text fun v e => { e with model := v },
      required "choices" (Format.list Choice.format) fun v e => { e with choices := v } ]

open JsonText in
def write (e : Event) : List Char :=
  JsonText.object (field "id" (quote e.id) ++ field "object" (quote e.object) ++
    field "created" (whole e.created.toInt) ++ field "model" (quote e.model) ++
    field "choices" (JsonText.list (e.choices.map Choice.write)))

/-- An event with one choice. Its id is made from the time, so it says nothing about the id under
which the provider answers. -/
def ofChoice (stamp : Stamp) (model : String) (choice : Choice) : Event :=
  { id := "chatcmpl-" ++ String.ofList (Decimal.intChars stamp.nanoseconds.toInt)
    object := "chat.completion.chunk"
    created := stamp.seconds
    model
    choices := [choice] }

def content (stamp : Stamp) (model content : String) : Event :=
  ofChoice stamp model { delta := { content := some content } }

def finish (stamp : Stamp) (model : String) : Event :=
  ofChoice stamp model { finishReason := some .stop }

end Event

end AnswerGateway.Chat
