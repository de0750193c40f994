import AnswerGateway.Cache.Record
import AnswerGateway.Fault
import AnswerGateway.Http.Post
import AnswerGateway.Text.Blank

/-!
A cache behind a cache service. A lookup that fails is a failure and never a miss; a record counts
as accepted only if the service says so.
-/

namespace AnswerGateway.Cache

open Json

structure Remote where
  baseUrl : String
  deriving DecidableEq, Repr

namespace Remote

def post (r : Remote) (operation : String) (body : Json) : Http.Post :=
  { url := Text.trimEnd '/' r.baseUrl ++ "/v1/cache/" ++ operation
    headers := [("Content-Type", "application/json")]
    body := body.canonical }

def lookupPost (r : Remote) (request : LookupRequest) : Http.Post := r.post "lookup" request.toJson

def recordPost (r : Remote) (record : Record) : Http.Post := r.post "record" record.toJson

def receiveLookup : Except Fault Json → Except Fault LookupResult
  | .error f => .error (.cache ("Remote lookup failed: " ++ f.display))
  | .ok response =>
    match (LookupResult.format : FromJson LookupResult) response with
    | .ok result => .ok result
    | .error cause => .error (.cache ("Invalid lookup response: " ++ cause.message))

/-- What becomes of the reply to a record: whether it was accepted. -/
def receiveRecord : Except Fault Json → Bool
  | .error _ => false
  | .ok response =>
    match (RecordResponse.format : FromJson RecordResponse) response with
    | .ok r => r.accepted
    | .error _ => false

end Remote

end AnswerGateway.Cache
