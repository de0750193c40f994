import AnswerGateway.Chat.Event
import AnswerGateway.Chat.Request
import AnswerGateway.Http.Service
import AnswerGateway.Relay.Path

/-!
The two services: the gateway, which answers chat requests with a stream of events, and the cache
service, behind which a cache can run on its own.
-/

namespace AnswerGateway.Http

structure Backend (m : Type → Type) (σ : Type) extends Relay.Services m σ where
  /-- Offers a record to the cache: whether it is accepted. -/
  record : Cache.Record → m Bool
  freshId : m String
  count : Metrics.Event → m Unit

variable {m : Type → Type} [Monad m] {σ : Type}

def asksForMock (r : Request) : Bool :=
  ((r.headerText? "x-mock").map smallName) == some "true"

def streamReply (content : Content σ) : Reply (Content σ) :=
  { status := 200
    headers := [("content-type", "text/event-stream"), ("cache-control", "no-cache")]
    content }

/-- Answers a chat request. Nothing is looked up or opened for a request that is refused, or that
asks for made-up events where those are allowed. -/
def chat (b : Backend m σ) (allowMock : Bool) (r : Request) : m (Reply (Content σ)) :=
  match extract Chat.Request.reader r with
  | .error refusal => return refusal.reply
  | .ok request =>
    if allowMock && asksForMock r then return streamReply (.mock request.model)
    else
      match request.toRelay with
      | .error f => return (Refusal.ofFault f).reply
      | .ok question => do
        match ← Relay.prepare b.toServices question with
        | .error f => return (Refusal.ofFault f).reply
        | .ok prepared => return streamReply (.answer prepared)

/-- Answers a lookup. A lookup that fails is told apart from one that finds nothing. -/
def lookup (b : Backend m σ) (r : Request) : m (Reply (Content σ)) :=
  match extract (Cache.LookupRequest.format : Json.Reader Cache.LookupRequest) r with
  | .error refusal => return refusal.reply
  | .ok question => do
    match ← b.lookup question with
    | .ok found => return jsonReply 200 found.write
    | .error f => return (Refusal.unavailable f.display).reply

def record (b : Backend m σ) (r : Request) : m (Reply (Content σ)) :=
  match extract (Cache.Record.format : Json.Reader Cache.Record) r with
  | .error refusal => return refusal.reply
  | .ok offered => do
    let accepted ← b.record offered
    return jsonReply 200 (Cache.RecordResponse.write { accepted })

def handle (b : Backend m σ) (allowMock : Bool) : Endpoint → Request → m (Reply (Content σ))
  | .health, _ => return healthReply
  | .live, _ => return textReply 200 ""
  | .chat, r => chat b allowMock r
  | .lookup, r => lookup b r
  | .record, r => record b r

def gateway (b : Backend m σ) (allowMock : Bool) (page : Option NumbersPage) : Service m σ :=
  { endpoints := [.health, .live, .chat]
    anyOrigin := true
    handle := handle b allowMock
    freshId := b.freshId
    count := b.count
    page }

def cacheService (b : Backend m σ) (page : Option NumbersPage) : Service m σ :=
  { endpoints := [.health, .live, .lookup, .record]
    anyOrigin := false
    handle := handle b false
    freshId := b.freshId
    count := b.count
    page }

def eventText (data : String) : String := "data: " ++ data ++ "\n\n"

def frameEvent (stamp : Chat.Stamp) (model : String) : Relay.Frame → String
  | .delta content => eventText (String.ofList (Chat.Event.content stamp model content).write)
  | .finish => eventText (String.ofList (Chat.Event.finish stamp model).write)
  | .done => eventText "[DONE]"

/-- The made-up events. They do not end like an answer does. -/
def mockFrames : List Relay.Frame := List.replicate 10 (.delta "mock")

end AnswerGateway.Http
