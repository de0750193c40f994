import AnswerGateway.Completion.Request
import AnswerGateway.Fault
import AnswerGateway.Text.Blank

/-!
A chat request as the cache and the provider see it: one prompt for one model.
-/

namespace AnswerGateway

structure RelayRequest where
  model : String
  /-- The contents of all messages in order, with one space between each two. -/
  prompt : String
  temperature : Option Float32 := none
  maxTokens : Option UInt32 := none
  deriving DecidableEq, Repr

namespace RelayRequest

/-- Makes one question of the contents of messages. A model must be named and there must be a
message; a missing model is reported first. -/
def ofContents (model : String) (contents : List String) (temperature : Option Float32)
    (maxTokens : Option UInt32) : Except Fault RelayRequest :=
  if Text.allBlank model then .error (.validation "model is required")
  else if contents.isEmpty then .error (.validation "messages cannot be empty")
  else .ok { model, prompt := " ".intercalate contents, temperature, maxTokens }

def toCompletion (r : RelayRequest) : CompletionRequest :=
  { model := r.model, prompt := r.prompt, temperature := r.temperature, maxTokens := r.maxTokens }

end RelayRequest

end AnswerGateway
