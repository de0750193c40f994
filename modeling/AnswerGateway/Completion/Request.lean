import AnswerGateway.Json.TextFormat
import AnswerGateway.Json.FromJson
import AnswerGateway.Json.Written

/-!
What the gateway asks of the provider of answers.
-/

namespace AnswerGateway

structure CompletionRequest where
  model : String
  prompt : String
  temperature : Option Float32 := none
  maxTokens : Option UInt32 := none
  deriving DecidableEq, Repr

namespace CompletionRequest

open Json Json.Format

def format {D : Type → Type} [Format D] : D CompletionRequest :=
  record "CompletionRequest" { model := "", prompt := "" }
    [ required "model" text fun v r => { r with model := v },
      required "prompt" text fun v r => { r with prompt := v },
      nullable "temperature" single fun v r => { r with temperature := v },
      nullable "max_tokens" word32 fun v r => { r with maxTokens := v } ]

open JsonText in
def write (r : CompletionRequest) : List Char :=
  object (field "model" (quote r.model) ++ field "prompt" (quote r.prompt) ++
    fieldIfSome "temperature" JsonText.single r.temperature ++
    fieldIfSome "max_tokens" (fun n => natural n.toNat) r.maxTokens)

/-- The settings of an answer that are sent along when they are given. -/
def options (temperature : Option Float32) (maxTokens : Option UInt32) : List (String × Json) :=
  (temperature.map fun x => ("temperature", ofSingle x)).toList ++
    (maxTokens.map fun n => ("max_tokens", ofUInt32 n)).toList

def toJson (r : CompletionRequest) : Json :=
  .obj ([("model", .str r.model), ("prompt", .str r.prompt)] ++ options r.temperature r.maxTokens)

end CompletionRequest

end AnswerGateway
