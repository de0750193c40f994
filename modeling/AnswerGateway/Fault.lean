/-!
What can go wrong in the gateway, by the part that it happens in. The texts are part of answers and
of log lines; `Fault.display` is the only place that words them.
-/

namespace AnswerGateway

inductive Fault where
  /-- The client's request makes no sense. -/
  | validation (message : String)
  /-- A provider of answers or embeddings could not be reached, or refused. -/
  | provider (name message : String)
  | embedding (message : String)
  | vectorStore (message : String)
  | cache (message : String)
  | configuration (message : String)
  | internal (message : String)
  deriving DecidableEq, Repr

namespace Fault

def display : Fault → String
  | .validation message => "Validation error: " ++ message
  | .provider name message => "Provider error: " ++ name ++ " - " ++ message
  | .embedding message => "Embedding error: " ++ message
  | .vectorStore message => "Vector store error: " ++ message
  | .cache message => "Cache error: " ++ message
  | .configuration message => "Configuration error: " ++ message
  | .internal message => "Internal error: " ++ message

/-- The same fault of the named provider; faults of other parts stay as they are. -/
def ofProvider (name : String) : Fault → Fault
  | .provider _ message => .provider name message
  | other => other

end Fault

end AnswerGateway
