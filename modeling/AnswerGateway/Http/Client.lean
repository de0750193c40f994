import AnswerGateway.Completion.Pump
import AnswerGateway.Fault
import AnswerGateway.Http.MediaType
import AnswerGateway.Http.Message
import AnswerGateway.Http.Post
import AnswerGateway.Http.Status
import AnswerGateway.Json.Reader
import AnswerGateway.Net.Url
import AnswerGateway.Text.Base64

/-!
The gateway as a client of other services. A document to be posted becomes a request that can be
sent, or it is refused before anything is sent; a delivery becomes a document or the body of a
stream, unless its status says that the request was not granted. Every failure is one of the
provider under whose name the client works.
-/

namespace AnswerGateway.Http

structure Outgoing where
  url : Net.Url
  /-- Names in small letters, in the order in which the values were added. -/
  headers : List (String × List UInt8)
  body : Json
  timeoutMs : Option Nat := none
  deriving Repr

/-- Why a request did not get through. -/
inductive SendFault where
  | unusable
  | unusableUrl (url : String)
  | unreachable (url : String)
  deriving DecidableEq, Repr

def SendFault.message : SendFault → String
  | .unusable => "builder error"
  | .unusableUrl url => "builder error for url (" ++ url ++ ")"
  | .unreachable url => "error sending request for url (" ++ url ++ ")"

/-- What came back: a status and the pieces of a body, which may have been cut off. -/
structure Delivery where
  status : Nat := 200
  pieces : List (List UInt8) := []
  cut : Bool := false
  deriving DecidableEq, Repr

structure Client where
  label : String
  /-- How long a request may take; no limit if it is zero. -/
  timeoutMs : Nat := 0
  deriving DecidableEq, Repr

/-- The header that stands for the user in an address. Only text can be said in it. -/
def credentials? (u : Net.Url) : Option (List UInt8) := do
  let name ← Text.decodeStrict? (Text.percentDecode u.username.toList)
  let password := u.password.bind fun p => Text.decodeStrict? (Text.percentDecode p.toList)
  if name = "" && password.isNone then none
  return Text.utf8 ("Basic " ++
    String.ofList (Text.base64 (Text.utf8 (name ++ ":" ++ password.getD ""))))

def headerNameLimit : Nat := 65535

def header? (h : String × String) : Option (String × List UInt8) :=
  let value := Text.utf8 h.2
  if !h.1.isEmpty && h.1.utf8ByteSize ≤ headerNameLimit && h.1.toList.all MediaType.isToken &&
      value.all fun b => (32 ≤ b && b != 127) || b == 9 then
    some (smallName h.1, value)
  else none

/-- The headers with one that says what the body is, unless one of them does. -/
def withBodyKind (headers : List (String × List UInt8)) : List (String × List UInt8) :=
  if headers.any (·.1 = "content-type") then headers
  else headers ++ [("content-type", Text.utf8 "application/json")]

namespace Client

def fault (c : Client) (message : String) : Fault := .provider c.label message

def sendFault (c : Client) (f : SendFault) : Fault := c.fault ("Request failed: " ++ f.message)

/-- Makes a request of a document. The user in the address goes into a header before the others. -/
def prepare (c : Client) (p : Post) : Except SendFault Outgoing :=
  match Net.Url.parse? p.url with
  | none => .error .unusable
  | some url =>
    if !url.hasHost then .error (.unusableUrl url.text)
    else
      match p.headers.mapM header? with
      | none => .error .unusable
      | some headers =>
        let timeoutMs := if c.timeoutMs = 0 then none else some c.timeoutMs
        match credentials? url with
        | none => .ok { url, headers := withBodyKind headers, body := p.body, timeoutMs }
        | some value =>
          .ok { url := { url with username := "", password := none }
                headers := withBodyKind (("authorization", value) :: headers)
                body := p.body, timeoutMs }

def unanswered (c : Client) (p : Post) : Fault :=
  c.sendFault <| match c.prepare p with
    | .error f => f
    | .ok r =>
      if r.url.scheme = "http" || r.url.scheme = "https" then .unreachable r.url.text
      else .unusableUrl r.url.text

def granted (c : Client) (d : Delivery) : Except Fault Delivery :=
  if isSuccess d.status then .ok d
  else
    let body := if d.cut then "" else Text.decodeLossy d.pieces.flatten
    .error (c.fault ("HTTP " ++ statusText d.status ++ ": " ++ body))

def unreadable : String := "error decoding response body"

def document (c : Client) (d : Delivery) : Except Fault Json := do
  let d ← c.granted d
  let failed := Except.error (c.fault ("Failed to parse response: " ++ unreadable))
  if d.cut then failed
  else
    match Json.readText Json.readAny (Text.glyphs d.pieces.flatten) with
    | .ok j => return j.canonical
    | .error _ => failed

def stream (c : Client) (d : Delivery) : Except Fault Completion.Body := do
  let d ← c.granted d
  return { reads := d.pieces.map .bytes ++
    if d.cut then [.failed (c.fault ("Stream error: " ++ unreadable)).display] else [] }

end Client

end AnswerGateway.Http
