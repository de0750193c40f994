import AnswerGateway.Embedding.Similarity
import AnswerGateway.Fault
import AnswerGateway.Http.Post
import AnswerGateway.Json.FromJson
import AnswerGateway.Text.Blank

/-!
Asking the provider of embeddings for the vector of a text. A vector of the wrong length is as bad
as none, so it is a failure here and never reaches a store.
-/

namespace AnswerGateway.Embedding

open Json Json.Format

/-- A provider of embeddings: one model that answers with vectors of one length. -/
structure Provider where
  apiKey : String
  model : String
  dimensions : Nat
  baseUrl : String
  deriving DecidableEq, Repr

namespace Provider

def name : String := "openai"

def post (p : Provider) (input : String) : Http.Post :=
  { url := Text.trimEnd '/' p.baseUrl ++ "/v1/embeddings"
    headers :=
      [ ("Authorization", "Bearer " ++ p.apiKey),
        ("Content-Type", "application/json"),
        ("Accept", "application/json") ]
    body := .obj
      [ ("dimensions", ofNat p.dimensions), ("encoding_format", .str "float"),
        ("input", .str input), ("model", .str p.model) ] }

def dataFormat {D : Type → Type} [Format D] : D Vector :=
  record "OpenAiEmbeddingData" [] [required "embedding" (Format.list single) fun v _ => v]

def responseFormat {D : Type → Type} [Format D] : D (List Vector) :=
  record "OpenAiEmbeddingResponse" [] [required "data" (Format.list dataFormat) fun v _ => v]

/-- The vector in a response: the first one, if it has the right length. -/
def vectorOf (p : Provider) (response : Json) : Except Fault Vector :=
  match (responseFormat : FromJson (List Vector)) response with
  | .error cause => .error (.embedding ("Failed to parse embedding response: " ++ cause.message))
  | .ok [] => .error (.embedding "Empty embedding response data")
  | .ok (v :: _) =>
    if v.length = p.dimensions then .ok v
    else .error (.embedding ("Expected " ++ toString p.dimensions ++ " dimensions, got " ++
      toString v.length))

def receive (p : Provider) : Except Fault Json → Except Fault Vector
  | .ok response => p.vectorOf response
  | .error f => .error (.embedding f.display)

end Provider

end AnswerGateway.Embedding
