import AnswerGateway.Cache.Record
import AnswerGateway.Http.Extract
import AnswerGateway.Http.Route
import AnswerGateway.Metrics.Basic
import AnswerGateway.Relay.Prepare

/-!
A service that answers requests: its endpoints, and what is wrapped around all of them. Every reply
carries the id of its request and every request is counted, also one for which there is no endpoint.
A service open to browsers of any origin answers their preflights itself.
-/

namespace AnswerGateway.Http

inductive Endpoint where
  | health | live | chat | lookup | record
  deriving DecidableEq, Repr

namespace Endpoint

def path : Endpoint → String
  | .health => "/health"
  | .live => "/live"
  | .chat => "/v1/chat/completions"
  | .lookup => "/v1/cache/lookup"
  | .record => "/v1/cache/record"

/-- Whether the endpoint only tells something. -/
def isQuestion : Endpoint → Bool
  | .health | .live => true
  | _ => false

def serves (e : Endpoint) (method : String) : Bool :=
  if e.isQuestion then method == "GET" || method == "HEAD" else method == "POST"

def allowed (e : Endpoint) : String := if e.isQuestion then "GET,HEAD" else "POST"

end Endpoint

/-- What a reply holds. `σ` is an open stream of a provider. -/
inductive Content (σ : Type) where
  | text (text : String)
  | mock (model : String)
  | answer (prepared : Relay.Prepared σ)
  deriving Repr

structure NumbersPage where
  path : String
  text : String
  deriving DecidableEq, Repr

/-- Whether a page can be mounted at a pattern beside endpoints: the pattern must mean something,
and no endpoint at the same path may be asked by the methods of the page. -/
def NumbersPage.mountable (endpoints : List Endpoint) (path : String) : Bool :=
  (Route.parse? path).isSome && !endpoints.any fun e => e.path == path && e.isQuestion

def NumbersPage.holds (page : NumbersPage) (path : String) : Bool :=
  (Route.parse? page.path).any (·.covers path)

structure Service (m : Type → Type) (σ : Type) where
  endpoints : List Endpoint
  anyOrigin : Bool
  handle : Endpoint → Request → m (Reply (Content σ))
  /-- Makes an id for a request that brings none. -/
  freshId : m String
  count : Metrics.Event → m Unit
  page : Option NumbersPage := none

variable {m : Type → Type} [Monad m] {σ : Type}

def textReply (status : Nat) (text : String) : Reply (Content σ) :=
  { status, content := .text text }

def jsonReply (status : Nat) (document : List Char) : Reply (Content σ) :=
  (textReply status (String.ofList document)).withHeader "content-type" "application/json"

def Refusal.reply (r : Refusal) : Reply (Content σ) := jsonReply r.status r.body.write

namespace Service

/-- The methods that browsers may use, and how long they may remember it. -/
def preflight (r : Request) : Reply (Content σ) :=
  let reply : Reply (Content σ) :=
    ((textReply 200 "").withHeader "access-control-allow-methods" "GET,POST,OPTIONS").withHeader
      "access-control-max-age" "86400"
  match r.headerText? "access-control-request-headers" with
  | some names => reply.withHeader "access-control-allow-headers" names
  | none => reply

def openToAll (reply : Reply (Content σ)) : Reply (Content σ) :=
  (reply.withHeader "access-control-allow-origin" "*").withHeader "vary"
    "origin, access-control-request-method, access-control-request-headers"

/-- The reply of an endpoint. What is asked by its headers alone gets no content. -/
def endpointReply (s : Service m σ) (r : Request) : Option Endpoint → m (Reply (Content σ))
  | none => return textReply 404 ""
  | some e =>
    if e.serves r.method then do
      let reply ← s.handle e r
      return if r.method == "HEAD" then reply.withContent (.text "") else reply
    else return textReply 405 ""

/-- The reply with what is wrapped around every endpoint, but for the id of the request. -/
def innerReply (s : Service m σ) (r : Request) (e : Option Endpoint) : m (Reply (Content σ)) := do
  let reply ← if s.anyOrigin && r.method == "OPTIONS" then pure (preflight r)
    else s.endpointReply r e
  let reply := if s.anyOrigin then openToAll reply else reply
  match e with
  | some e => return if e.serves r.method then reply else reply.withHeader "allow" e.allowed
  | none => return reply

/-- The id of a request: the one that it brings, or a fresh one. -/
def requestId (s : Service m σ) (r : Request) : m String :=
  match r.headerText? "x-request-id" with
  | some id => if id.isEmpty then s.freshId else pure id
  | none => s.freshId

/-- The reply of the page of numbers. `others` are the methods of an endpoint at the same path. -/
def pageReply (page : NumbersPage) (r : Request) (others : String) : Reply (Content σ) :=
  if r.method == "GET" || r.method == "HEAD" then
    (textReply 200 (if r.method == "HEAD" then "" else page.text)).withHeader
      "content-type" "text/plain; charset=utf-8"
  else (textReply 405 "").withHeader "allow" (others ++ "GET,HEAD")

/-- Answers a request to one of the endpoints, or to none. -/
def respondInside (s : Service m σ) (r : Request) : m (Reply (Content σ)) := do
  let e := s.endpoints.find? (·.path == r.path)
  let id ← s.requestId r
  let reply ← s.innerReply r e
  s.count (.request r.method (e.elim r.path Endpoint.path) reply.status)
  return reply.withHeader "x-request-id" id

/-- Answers a request. An endpoint comes before a page whose pattern is wider than its path; at one
and the same path each of them has its own methods. -/
def respond (s : Service m σ) (r : Request) : m (Reply (Content σ)) :=
  match s.page, s.endpoints.find? (·.path == r.path) with
  | some page, none =>
    if page.holds r.path then pure (pageReply page r "") else s.respondInside r
  | some page, some e =>
    if page.path == e.path && !e.serves r.method then pure (pageReply page r (e.allowed ++ ","))
    else s.respondInside r
  | none, _ => s.respondInside r

end Service

def version : String := "0.1.0"

open JsonText in
def healthReply : Reply (Content σ) :=
  jsonReply 200 (object (field "status" (quote "healthy") ++ field "version" (quote version)))

def versionGauge : String :=
  "# TYPE semantic_gateway_info gauge\nsemantic_gateway_info\x7bversion=\"" ++ version ++
    "\"\x7d 1\n\n"

end AnswerGateway.Http
