import AnswerGateway.Http.MediaType
import AnswerGateway.Http.Message
import AnswerGateway.Http.Refusal

/-!
Taking a value out of a request's body. The body must say that it is JSON, must not be too long,
must be JSON, and must hold the value that is wanted; the first of these that fails is told to the
client, with the path to the part of the body that was at fault.
-/

namespace AnswerGateway.Http

open Json

def showPath : List PathStep → String
  | [] => ""
  | .field name :: rest => "." ++ name ++ showPath rest
  | .item index :: rest => "[" ++ toString index ++ "]" ++ showPath rest
  | .variant name :: rest => "." ++ name ++ showPath rest

/-- A path as a message begins with it: nothing for the whole document. -/
def pathNote (path : List PathStep) : String :=
  match (showPath path).toList with
  | [] => ""
  | '.' :: cs => String.ofList cs ++ ": "
  | cs => String.ofList cs ++ ": "

def bodyLimit : Nat := 2 * 1024 * 1024

/-- A body that could not be used. -/
def bodyRefusal (status : Nat) (message : String) : Refusal :=
  { (Refusal.badRequest message).withCode "json_parse_error" with status }

/-- Why a body could not be read. -/
def failureRefusal (f : Failure) : Refusal :=
  let message := pathNote f.path ++ f.message
  if f.cause.isSyntax then
    bodyRefusal 400
      ("Invalid JSON syntax: Failed to parse the request body as JSON: " ++ message)
  else
    bodyRefusal 422
      ("Invalid JSON data: Failed to deserialize the JSON body into the target type: " ++ message)

def saysJson (r : Request) : Bool :=
  ((r.headerText? "content-type").bind MediaType.parse?).any MediaType.isJson

def extract {α : Type} (reader : Reader α) (r : Request) : Except Refusal α :=
  if !saysJson r then
    .error (bodyRefusal 415 "Missing Content-Type header. Expected 'application/json'.")
  else if bodyLimit < r.body.length then
    .error (bodyRefusal 413
      "Failed to read request body: Failed to buffer the request body: length limit exceeded")
  else
    match readText reader (Text.glyphs r.body) with
    | .ok a => .ok a
    | .error f => .error (failureRefusal f)

end AnswerGateway.Http
