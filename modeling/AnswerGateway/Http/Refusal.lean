import AnswerGateway.Fault
import AnswerGateway.Json.FromJson
import AnswerGateway.Json.TextFormat
import AnswerGateway.Json.Written

/-!
Requests that are answered with an error: the status, and the envelope in which the body tells the
client what is wrong.
-/

namespace AnswerGateway.Http

open Json Json.Format

inductive RefusalKind where
  | invalidRequest | notFound | server | provider | unavailable
  deriving DecidableEq, Repr

namespace RefusalKind

def name : RefusalKind → String
  | .invalidRequest => "invalid_request_error"
  | .notFound => "not_found_error"
  | .server => "server_error"
  | .provider => "upstream_error"
  | .unavailable => "service_unavailable_error"

def all : List RefusalKind := [.invalidRequest, .notFound, .server, .provider, .unavailable]

def format {D : Type → Type} [Format D] : D RefusalKind :=
  choice "ApiErrorType" (all.map fun k => (k.name, k))

end RefusalKind

structure RefusalDetail where
  message : String
  kind : RefusalKind
  param : Option String := none
  code : Option String := none
  deriving DecidableEq, Repr

namespace RefusalDetail

def format {D : Type → Type} [Format D] : D RefusalDetail :=
  record "ApiErrorDetail" { message := "", kind := .server }
    [ required "message" text fun v r => { r with message := v },
      required "type" RefusalKind.format fun v r => { r with kind := v },
      nullable "param" text fun v r => { r with param := v },
      nullable "code" text fun v r => { r with code := v } ]

open JsonText in
def write (r : RefusalDetail) : List Char :=
  object (field "message" (quote r.message) ++ field "type" (quote r.kind.name) ++
    fieldIfSome "param" quote r.param ++ fieldIfSome "code" quote r.code)

end RefusalDetail

structure RefusalBody where
  error : RefusalDetail
  deriving DecidableEq, Repr

namespace RefusalBody

def format {D : Type → Type} [Format D] : D RefusalBody :=
  record "ApiErrorResponse" ⟨{ message := "", kind := .server }⟩
    [required "error" RefusalDetail.format fun v _ => ⟨v⟩]

open JsonText in
def write (r : RefusalBody) : List Char := object (field "error" r.error.write)

end RefusalBody

structure Refusal where
  status : Nat
  body : RefusalBody
  deriving DecidableEq, Repr

namespace Refusal

def of (status : Nat) (kind : RefusalKind) (message : String) : Refusal :=
  ⟨status, ⟨{ message, kind }⟩⟩

def badRequest (message : String) : Refusal := of 400 .invalidRequest message

def notFound (message : String) : Refusal := of 404 .notFound message

def internal (message : String) : Refusal := of 500 .server message

def badGateway (message : String) : Refusal := of 502 .provider message

def unavailable (message : String) : Refusal := of 503 .unavailable message

def withParam (param : String) (r : Refusal) : Refusal :=
  { r with body := ⟨{ r.body.error with param := some param }⟩ }

def withCode (code : String) (r : Refusal) : Refusal :=
  { r with body := ⟨{ r.body.error with code := some code }⟩ }

def ofFault : Fault → Refusal
  | .validation message => badRequest message
  | .provider name message => badGateway (name ++ ": " ++ message)
  | .configuration message => internal message
  | .internal message => internal message
  | fault => unavailable fault.display

def display (r : Refusal) : String := r.body.error.kind.name ++ ": " ++ r.body.error.message

end Refusal

end AnswerGateway.Http
