import AnswerGateway.Cache.Remote
import AnswerGateway.Http.Client
import AnswerGateway.Http.Gateway
import AnswerGateway.Proofs.Json.Document
import AnswerGateway.Proofs.Json.Whole
import AnswerGateway.Proofs.Text.Utf8

/-!
What is asked of a cache and what it answers, as the two sides of a wire write and read it. Each
side has its own records for the same messages; here the body of every request is read as the
question that was asked, and the reply to it as the answer that was given.
-/

namespace AnswerGateway

/-- The bytes of a reply that is a text; a cache service gives no other. -/
def Http.Content.bytes {σ : Type} : Content σ → List UInt8
  | .text t => Text.utf8 t
  | _ => []

namespace Cache

open Json Http

/-- What can be asked of a cache. -/
inductive Ask where
  | lookup (question : LookupRequest)
  | record (r : Record)
  deriving DecidableEq, Repr

namespace Ask

/-- What a cache can answer to it. -/
@[reducible]
def Answer : Ask → Type
  | .lookup _ => Except Fault LookupResult
  | .record _ => Bool

def post (remote : Remote) : Ask → Post
  | .lookup question => remote.lookupPost question
  | .record r => remote.recordPost r

def endpoint : Ask → Endpoint
  | .lookup _ => .lookup
  | .record _ => .record

/-- What the remote cache makes of a response. -/
def receive : (ask : Ask) → Except Fault Json → ask.Answer
  | .lookup _ => Remote.receiveLookup
  | .record _ => Remote.receiveRecord

def put {m : Type → Type} {σ : Type} (b : Backend m σ) : (ask : Ask) → m ask.Answer
  | .lookup question => b.lookup question
  | .record r => b.record r

/-- The reply in which the service gives an answer. -/
def reply {σ : Type} : (ask : Ask) → ask.Answer → Reply (Content σ)
  | .lookup _, .ok found => jsonReply 200 found.write
  | .lookup _, .error f => (Refusal.unavailable f.display).reply
  | .record _, accepted => jsonReply 200 (RecordResponse.write { accepted })

/-- The text of the reply to a lookup that failed. -/
def failureText (f : Fault) : String := String.ofList (Refusal.unavailable f.display).body.write

/-- What somebody is told who asked for it over the wire. -/
def told (client : Client) : (ask : Ask) → ask.Answer → ask.Answer
  | .lookup _, .ok found => .ok found
  | .lookup _, .error f =>
    Remote.receiveLookup
      (.error (client.fault ("HTTP " ++ statusText 503 ++ ": " ++ failureText f)))
  | .record _, accepted => accepted

/-- Whether an answer says that the cache could not be asked, or did not accept. -/
def Failed : (ask : Ask) → ask.Answer → Prop
  | .lookup _, answer => ∃ message, answer = .error (.cache message)
  | .record _, accepted => accepted = false

/-- The document in the body of its request, with the fields sorted. -/
def document : Ask → Json
  | .lookup q => .obj [("model", .str q.model), ("prompt", .str q.prompt)]
  | .record r =>
    .obj [("model", .str r.model), ("prompt", .str r.prompt), ("response", .str r.response),
      ("token_usage", ofUInt32 r.tokenUsage)]

theorem post_url (remote : Remote) (ask : Ask) :
    (ask.post remote).url = Text.trimEnd '/' remote.baseUrl ++ ask.endpoint.path := by
  cases ask <;>
    simp [post, Remote.lookupPost, Remote.recordPost, Remote.post, endpoint, Endpoint.path,
      String.append_assoc]

theorem post_body (remote : Remote) (ask : Ask) : (ask.post remote).body = ask.document := by
  have first : "model" < "prompt" := by decide
  cases ask with
  | lookup q =>
      show q.toJson.canonical = _
      simp only [LookupRequest.toJson, canonical, canonicalFields, List.foldl_cons, List.foldl_nil,
        insertField_nil, insertField_of_lt first, document]
  | record r =>
      have third : "prompt" < "response" := by decide
      have usage : "model" < "token_usage" ∧ "prompt" < "token_usage" ∧
          "response" < "token_usage" := by decide
      show r.toJson.canonical = _
      simp only [Record.toJson, ofUInt32, canonical, canonicalFields, List.foldl_cons,
        List.foldl_nil, insertField_nil, insertField_of_lt first, insertField_of_gt third,
        insertField_of_gt usage.1, insertField_of_gt usage.2.1, insertField_of_gt usage.2.2,
        document]

end Ask

/-! The body of a request. -/

theorem LookupRequest.reads (q : LookupRequest) {depth : Nat} (deep : 1 < depth) :
    Reads ((LookupRequest.format : Reader LookupRequest) depth) (Ask.lookup q).document.chars
      q := by
  have text (s : String) := reads_text s (depth - 1)
  refine reads_readRecord deep ?_
  refine .known rfl rfl ((text q.model).map fun v (r : LookupRequest) => { r with model := v }) ?_
  refine .known rfl rfl ((text q.prompt).map fun v (r : LookupRequest) => { r with prompt := v }) ?_
  exact .done rfl

theorem Record.reads (r : Record) {depth : Nat} (deep : 1 < depth) :
    Reads ((Record.format : Reader Record) depth) (Ask.record r).document.chars r := by
  have text (s : String) := reads_text s (depth - 1)
  have usage := reads_word32 r.tokenUsage (depth - 1)
  refine reads_readRecord deep ?_
  refine .known rfl rfl ((text r.model).map fun v (r : Record) => { r with model := v }) ?_
  refine .known rfl rfl ((text r.prompt).map fun v (r : Record) => { r with prompt := v }) ?_
  refine .known rfl rfl ((text r.response).map fun v (r : Record) => { r with response := v }) ?_
  refine .known rfl rfl (usage.map fun v (r : Record) => { r with tokenUsage := v }) ?_
  exact .done rfl

/-! What the client makes of a delivery. -/

section

variable (client : Client) {d : Delivery}

theorem document_of_leaves {fields : List (String × Json)} (leaves : ∀ f ∈ fields, Leaf f.2)
    (granted : isSuccess d.status = true) (whole : d.cut = false)
    (bytes : d.pieces.flatten = Text.utf8 (Json.obj fields).print) :
    client.document d = .ok (Json.obj fields).canonical := by
  have read := readText_leaves fields leaves
  rw [← Text.glyphs_utf8, ← bytes] at read
  have passes : client.granted d = .ok d := by rw [Client.granted, if_pos granted]
  simp [Client.document, passes, Bind.bind, Except.bind, whole, read, pure, Except.pure]

/-- A request that is not granted is a failure, and the text of the reply is told with it. -/
theorem document_of_refusal {text : String} (refused : isSuccess d.status = false)
    (whole : d.cut = false) (bytes : d.pieces.flatten = Text.utf8 text) :
    client.document d =
      .error (client.fault ("HTTP " ++ statusText d.status ++ ": " ++ text)) := by
  have stops : client.granted d =
      .error (client.fault ("HTTP " ++ statusText d.status ++ ": " ++ text)) := by
    simp [Client.granted, refused, whole, bytes, Text.decodeLossy_utf8]
  rw [Client.document, stops]
  rfl

/-- Neither a refusal nor a reply that was cut off is ever a document. -/
theorem exists_document_error (broken : isSuccess d.status = false ∨ d.cut = true) :
    ∃ f, client.document d = .error f := by
  cases granted : isSuccess d.status with
  | false =>
      obtain ⟨f, stops⟩ : ∃ f, client.granted d = .error f := by simp [Client.granted, granted]
      exact ⟨f, by rw [Client.document, stops]; rfl⟩
  | true =>
      have cut : d.cut = true := broken.resolve_left (by simp [granted])
      have passes : client.granted d = .ok d := by rw [Client.granted, if_pos granted]
      simp [Client.document, passes, Bind.bind, Except.bind, cut]

end

namespace Ask

theorem failed_receive (ask : Ask) (f : Fault) : ask.Failed (ask.receive (.error f)) := by
  cases ask with
  | lookup q => exact ⟨_, rfl⟩
  | record r => rfl

theorem told_ok_iff {client : Client} {q : LookupRequest} {answer : (lookup q).Answer}
    {found : LookupResult} :
    (lookup q).told client answer = .ok found ↔ answer = .ok found := by
  cases answer with
  | ok result => exact Iff.rfl
  | error f => constructor <;> intro same <;> cases same

/-- Whatever a lookup failed of is told as a failure of the cache. -/
theorem failed_told_iff {client : Client} {q : LookupRequest} {answer : (lookup q).Answer} :
    (lookup q).Failed ((lookup q).told client answer) ↔ ∃ f, answer = .error f := by
  cases answer with
  | ok result => constructor <;> rintro ⟨_, failed⟩ <;> cases failed
  | error f =>
      constructor
      · exact fun _ => ⟨f, rfl⟩
      · exact fun _ => failed_receive _ _

/-- The whole reply is received as what is told of the answer. -/
theorem receive_reply {σ : Type} (client : Client) (ask : Ask) (x : ask.Answer) {d : Delivery}
    (status : d.status = (ask.reply x : Reply (Content σ)).status) (whole : d.cut = false)
    (bytes : d.pieces.flatten = (ask.reply x : Reply (Content σ)).content.bytes) :
    ask.receive (client.document d) = ask.told client x := by
  cases ask with
  | lookup q =>
      cases x with
      | ok found =>
          have text : ((lookup q).reply (.ok found) : Reply (Content σ)).content =
              .text (Json.obj [("hit", .bool found.hit), ("answer", .str found.answer)]).print :=
            rfl
          rw [text, Content.bytes] at bytes
          have leaves : ∀ f ∈ [("hit", Json.bool found.hit), ("answer", .str found.answer)],
              Leaf f.2 := by
            rintro f (_ | ⟨_, _ | ⟨_, ⟨⟩⟩⟩)
            · exact .bool _
            · exact .str _
          have sorted :
              (Json.obj [("hit", .bool found.hit), ("answer", .str found.answer)]).canonical =
                .obj [("answer", .str found.answer), ("hit", .bool found.hit)] := by
            have first : "answer" < "hit" := by decide
            simp only [canonical, canonicalFields, List.foldl_cons, List.foldl_nil,
              insertField_nil, insertField_of_lt first]
          have granted : isSuccess d.status = true := by
            rw [status]
            rfl
          rw [document_of_leaves client leaves granted whole bytes, sorted]
          rfl
      | error f =>
          have refused : isSuccess d.status = false := by
            rw [status]
            rfl
          have text : ((lookup q).reply (.error f) : Reply (Content σ)).content =
              .text (failureText f) := rfl
          rw [text, Content.bytes] at bytes
          rw [document_of_refusal client refused whole bytes, status]
          rfl
  | record r =>
      have text : ((record r).reply x : Reply (Content σ)).content =
          .text (Json.obj [("accepted", .bool x)]).print := rfl
      rw [text, Content.bytes] at bytes
      have leaves : ∀ f ∈ [("accepted", Json.bool x)], Leaf f.2 := by
        rintro f (_ | ⟨_, ⟨⟩⟩)
        exact .bool _
      have granted : isSuccess d.status = true := by
        rw [status]
        rfl
      rw [document_of_leaves client leaves granted whole bytes]
      rfl

end Ask

end Cache

end AnswerGateway
