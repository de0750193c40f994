import AnswerGateway.Proofs.Cache.Ask

/-!
A cache behind a service, asked over a connection that changes nothing. Whatever is asked reaches
the endpoint for it and is read there as it was meant, and so is the reply by the one who asked: a
call is one question to the cache behind the service.
-/

namespace AnswerGateway

open Json

namespace Http

/-- The request as the service receives it, with the headers that the connection adds. -/
def Outgoing.request (o : Outgoing) (added : List (String × List UInt8)) : Request :=
  { method := "POST"
    path := Net.Url.UrlPath.text o.url.path
    headers := o.headers ++ added
    body := Text.utf8 o.body.print }

end Http

namespace Cache

open Http

/-- Somebody who asks a cache service, and the connection to it. -/
structure Link where
  client : Client
  remote : Remote
  /-- The headers that the connection adds to every request. They say nothing of its id. -/
  added : List (String × List UInt8) := []
  anonymous : ∀ h ∈ added, smallName h.1 ≠ "x-request-id"

namespace Link

/-- Whether the address of a request is that of an endpoint of the service. -/
structure Finds (link : Link) (ask : Ask) (url : Net.Url) : Prop where
  parsed : Net.Url.parse? (ask.post link.remote).url = some url
  hasHost : url.hasHost = true
  scheme : url.scheme = "http" ∨ url.scheme = "https"
  path : Net.Url.UrlPath.text url.path = ask.endpoint.path

/-- Whether the address of the remote cache is that of the service. -/
def Reaches (link : Link) : Prop := ∀ ask, ∃ url, link.Finds ask url

/-- Whether the body of a request is within the limit of the service. -/
def Carries (link : Link) (ask : Ask) : Prop :=
  (Text.utf8 (ask.post link.remote).body.print).length ≤ bodyLimit

end Link

/-- Whether a request is what becomes of a question on its way. -/
structure Asks (ask : Ask) (r : Request) : Prop where
  method : r.method = "POST"
  path : r.path = ask.endpoint.path
  kind : r.headerText? "content-type" = some "application/json"
  anonymous : r.headerText? "x-request-id" = none
  body : r.body = Text.utf8 ask.document.print

namespace Link

variable {link : Link} {ask : Ask}

theorem Carries.length_body {r : Request} (fits : link.Carries ask) (asks : Asks ask r) :
    r.body.length ≤ bodyLimit := by
  rw [asks.body, ← ask.post_body link.remote]
  exact fits

/-- What says that a body is JSON. -/
def jsonKind : String × List UInt8 := ("content-type", Text.utf8 "application/json")

/-- Whether headers say what the body is, and nothing else but who asks. -/
def ForJson (headers : List (String × List UInt8)) : Prop :=
  headers = [jsonKind] ∨ ∃ value, headers = [("authorization", value), jsonKind]

variable {o : Outgoing}

theorem header?_kind (own : ForJson o.headers) (added : List (String × List UInt8)) :
    (o.request added).header? "content-type" = some jsonKind.2 := by
  have kind : (smallName "content-type" == "content-type") = true := by decide
  have user : (smallName "authorization" == "content-type") = false := by decide
  rcases own with headers | ⟨value, headers⟩ <;>
    simp [Request.header?, Outgoing.request, headers, jsonKind, kind, user]

theorem header?_id (own : ForJson o.headers) :
    (o.request link.added).header? "x-request-id" = none := by
  have kind : smallName "content-type" ≠ "x-request-id" := by decide
  have user : smallName "authorization" ≠ "x-request-id" := by decide
  have named : ∀ h ∈ o.headers, smallName h.1 ≠ "x-request-id" := by
    rcases own with headers | ⟨value, headers⟩ <;> simp [headers, jsonKind, kind, user]
  have each : ∀ h ∈ o.headers ++ link.added, ¬(smallName h.1 == "x-request-id") = true := by
    intro h member
    rcases List.mem_append.mp member with member | member
    · simpa using named h member
    · simpa using link.anonymous h member
  simp only [Request.header?, Outgoing.request, List.find?_eq_none.mpr each, Option.map_none]

/-- A request that is made of a question asks it, whether or not the address names a user. -/
theorem asks_request (path : Net.Url.UrlPath.text o.url.path = ask.endpoint.path)
    (body : o.body = ask.document) (own : ForJson o.headers) : Asks ask (o.request link.added) := by
  have kind := header?_kind own link.added
  have anonymous : (o.request link.added).header? "x-request-id" = none := header?_id own
  have visible : jsonKind.2.all isVisible = true := by decide
  have text : String.ofList (jsonKind.2.map fun b => Char.ofNat b.toNat) = "application/json" := by
    decide
  exact {
    method := rfl
    path
    kind := by
      simp only [Request.headerText?, kind, Option.bind_eq_bind, Option.bind_some, visible, text,
        if_true]
    anonymous := by
      rw [Request.headerText?, anonymous]
      rfl
    body := by rw [Outgoing.request, body] }

/-- A question can be sent to an address of the service, and is asked there. -/
theorem Reaches.prepare (reaches : link.Reaches) (ask : Ask) :
    ∃ o, link.client.prepare (ask.post link.remote) = .ok o ∧ Asks ask (o.request link.added) := by
  obtain ⟨url, h⟩ := reaches ask
  have named : (ask.post link.remote).headers.mapM header? = some [jsonKind] := by
    have one : [("Content-Type", "application/json")].mapM header? = some [jsonKind] := by decide
    cases ask <;> exact one
  have body := ask.post_body link.remote
  simp only [Client.prepare, h.parsed, h.hasHost, named]
  cases credentials? url with
  | none => exact ⟨_, rfl, asks_request h.path body (.inl rfl)⟩
  | some value => exact ⟨_, rfl, asks_request h.path body (.inr ⟨value, rfl⟩)⟩

end Link

/-! What the service does with a question. -/

namespace Asks

variable {ask : Ask} {r : Request}

theorem saysJson (h : Asks ask r) : saysJson r = true := by
  have type : (MediaType.parse? "application/json").any MediaType.isJson = true := by decide
  simp only [Http.saysJson, h.kind, Option.bind_some, type]

variable {α : Type} {reader : Reader α} {a : α}

theorem extract_of_fits (h : Asks ask r) (fits : r.body.length ≤ bodyLimit)
    (reads : Reads (reader depthLimit) ask.document.chars a) : extract reader r = .ok a := by
  have short : ¬bodyLimit < r.body.length := Nat.not_lt.mpr fits
  have read : readText reader (Text.glyphs r.body) = .ok a := by
    rw [h.body, Text.glyphs_utf8]
    exact reads.decodeText
  simp [extract, h.saysJson, short, read]

theorem extract_of_long (h : Asks ask r) (reader : Reader α) (long : bodyLimit < r.body.length) :
    ∃ refusal : Refusal, extract reader r = .error refusal ∧ isSuccess refusal.status = false := by
  simp only [extract, h.saysJson, long, Bool.not_true, Bool.false_eq_true, if_false, if_true]
  exact ⟨_, rfl, rfl⟩

variable {m : Type → Type} [Monad m] {σ : Type} (b : Backend m σ)

/-- A question within the limit is put to the cache, and the answer is the reply. -/
theorem handle_of_fits [LawfulMonad m] (h : Asks ask r) (fits : r.body.length ≤ bodyLimit) :
    handle b false ask.endpoint r = ask.reply <$> ask.put b := by
  have deep : 1 < depthLimit := by decide
  cases ask with
  | lookup q =>
      have taken := h.extract_of_fits fits (q.reads deep)
      show lookup b r = _
      rw [lookup, taken, map_eq_pure_bind]
      refine bind_congr fun answer => ?_
      cases answer <;> rfl
  | record offered =>
      have taken := h.extract_of_fits fits (offered.reads deep)
      show record b r = _
      rw [record, taken, map_eq_pure_bind]
      rfl

/-- A question beyond the limit is refused, and the cache does not hear of it. -/
theorem handle_of_long (h : Asks ask r) (long : bodyLimit < r.body.length) :
    ∃ reply, handle b false ask.endpoint r = pure reply ∧ isSuccess reply.status = false := by
  cases ask with
  | lookup q =>
      obtain ⟨refusal, refused, status⟩ := h.extract_of_long LookupRequest.format long
      refine ⟨refusal.reply, ?_, status⟩
      show lookup b r = _
      rw [lookup, refused]
  | record offered =>
      obtain ⟨refusal, refused, status⟩ := h.extract_of_long Record.format long
      refine ⟨refusal.reply, ?_, status⟩
      show record b r = _
      rw [record, refused]

/-- A question reaches its endpoint, whichever page of numbers the service has beside it. -/
theorem respond_eq [LawfulMonad m] (h : Asks ask r) (page : Option NumbersPage) :
    (cacheService b page).respond r = (do
      let id ← b.freshId
      let reply ← handle b false ask.endpoint r
      b.count (.request "POST" ask.endpoint.path reply.status)
      return reply.withHeader "x-request-id" id) := by
  have found : (cacheService b page).endpoints.find? (·.path == r.path) = some ask.endpoint := by
    rw [h.path]
    cases ask <;> rfl
  have serves : ask.endpoint.serves r.method = true := by
    rw [h.method]
    cases ask <;> rfl
  have id : (cacheService b page).requestId r = b.freshId := by
    rw [Service.requestId, h.anonymous]
    rfl
  have inner : (cacheService b page).innerReply r (some ask.endpoint) =
      handle b false ask.endpoint r := by
    have head : (r.method == "HEAD") = false := by rw [h.method]; decide
    simp [Service.innerReply, Service.endpointReply, serves, head, cacheService]
  have inside : (cacheService b page).respondInside r = (do
      let id ← b.freshId
      let reply ← handle b false ask.endpoint r
      b.count (.request "POST" ask.endpoint.path reply.status)
      return reply.withHeader "x-request-id" id) := by
    rw [Service.respondInside, found, id, inner, h.method]
    rfl
  rw [← inside, Service.respond, found]
  cases page with
  | none => rfl
  | some page => simp [cacheService, serves]

end Asks

end Cache

end AnswerGateway
