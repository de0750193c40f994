import AnswerGateway.Chat.Message
import AnswerGateway.Relay.Request

/-!
The body of a chat request. Fields that the gateway does not act on are passed over.
-/

namespace AnswerGateway.Chat

open Json Json.Format

structure Request where
  model : String := ""
  messages : List Message := []
  temperature : Option Float32 := none
  maxTokens : Option UInt32 := none
  /-- Answers are always streamed; the wish is taken and makes no difference. -/
  stream : Bool := false
  deriving DecidableEq, Repr

namespace Request

def reader : Reader Request :=
  record "ChatCompletionRequest" {}
    [ defaulted "model" text fun v r => { r with model := v },
      defaulted "messages" (Format.list Message.reader) fun v r => { r with messages := v },
      nullable "temperature" single fun v r => { r with temperature := v },
      nullable "max_tokens" word32 fun v r => { r with maxTokens := v },
      defaulted "stream" flag fun v r => { r with stream := v } ]

open JsonText in
def write (r : Request) : List Char :=
  object (field "model" (quote r.model) ++
    field "messages" (JsonText.list (r.messages.map Message.write)) ++
    fieldIfSome "temperature" JsonText.single r.temperature ++
    fieldIfSome "max_tokens" (fun n => natural n.toNat) r.maxTokens ++
    field "stream" (truth r.stream))

def temperatureAllowed (x : Float32) : Bool := 0 ≤ x && x ≤ 2

def toRelay (r : Request) : Except Fault RelayRequest :=
  if r.temperature.all temperatureAllowed then
    RelayRequest.ofContents r.model (r.messages.map Message.toText) r.temperature r.maxTokens
  else .error (.validation "temperature must be between 0 and 2")

end Request

end AnswerGateway.Chat
