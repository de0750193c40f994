import AnswerGateway.Completion.Request
import AnswerGateway.Fault
import AnswerGateway.Http.Post
import AnswerGateway.Text.Blank

/-!
Asking the provider of answers: the request that opens a stream of events.
-/

namespace AnswerGateway.Completion

structure Provider where
  apiKey : String
  baseUrl : String
  deriving DecidableEq, Repr

namespace Provider

/-- Where providers are found unless they are configured. -/
def defaultBaseUrl : String := "https://api.openai.com"

def name : String := "openai"

def streamCapacity : Nat := 10

/-- The request for a streamed answer, with the number of tokens at its end. -/
def post (p : Provider) (r : CompletionRequest) : Http.Post :=
  { url := Text.trimEnd '/' p.baseUrl ++ "/v1/chat/completions"
    headers :=
      [ ("Authorization", "Bearer " ++ p.apiKey),
        ("Content-Type", "application/json"),
        ("Accept", "text/event-stream") ]
    body := Json.canonical <| .obj <|
      [ ("model", .str r.model),
        ("messages", .arr [.obj [("content", .str r.prompt), ("role", .str "user")]]),
        ("stream", .bool true),
        ("stream_options", .obj [("include_usage", .bool true)]) ] ++
      CompletionRequest.options r.temperature r.maxTokens }

/-- A failure to reach the provider, under the provider's own name. -/
def relabel (f : Fault) : Fault := f.ofProvider name

end Provider

end AnswerGateway.Completion
