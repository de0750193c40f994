import AnswerGateway.Json.Basic

/-!
A request that the gateway sends to another service.
-/

namespace AnswerGateway.Http

structure Post where
  url : String
  headers : List (String × String)
  body : Json
  deriving Repr

end AnswerGateway.Http
