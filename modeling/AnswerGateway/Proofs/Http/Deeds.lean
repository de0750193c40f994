import AnswerGateway.Http.Exchange

/-!
What a gateway does to its cache and its provider before it replies to a chat request. A request
that cannot be read, that asks for made-up events or that is not valid does nothing to them. Every
other one is looked up once, and only if nothing is found is the provider asked, once, for the same
model and prompt.

A log of what is done stands beside the backend; nothing reads it.
-/

namespace AnswerGateway

/-- The question that the messages of a chat request are together. -/
def Chat.Request.question (request : Chat.Request) : RelayRequest :=
  { model := request.model
    prompt := " ".intercalate (request.messages.map Message.toText)
    temperature := request.temperature
    maxTokens := request.maxTokens }

theorem Chat.Request.toRelay_ok {request : Chat.Request} {question : RelayRequest}
    (valid : request.toRelay = .ok question) : question = request.question := by
  rw [toRelay, RelayRequest.ofContents] at valid
  split at valid
  · split at valid
    · cases valid
    · split at valid
      · cases valid
      · exact (Except.ok.inj valid).symm
  · cases valid

namespace Http

/-- What is done to a cache or a provider, with what it answers. -/
inductive Deed where
  | lookup (question : Cache.LookupRequest) (answer : Except Fault Cache.LookupResult)
  | openStream (request : CompletionRequest) (answer : Except Fault Unit)
  | record (r : Cache.Record)

section Logged

variable {σ α β : Type}

/-- A computation that adds to a log what it has done. -/
def logged (x : StateM σ α) (deeds : α → List Deed) : StateM (σ × List Deed) α :=
  modifyGet fun (s, log) => ((x.run s).1, (x.run s).2, log ++ deeds (x.run s).1)

theorem run_bind {x : StateM σ α} {f : α → StateM σ β} {s s' : σ} {a : α}
    (h : x.run s = (a, s')) : (x >>= f).run s = (f a).run s' := by
  rw [StateT.run_bind, h]
  rfl

theorem run_logged {x : StateM σ α} {deeds : α → List Deed} {s s' : σ} {a : α} {log : List Deed}
    (h : x.run s = (a, s')) : (logged x deeds).run (s, log) = (a, s', log ++ deeds a) := by
  change ((x.run s).1, (x.run s).2, log ++ deeds (x.run s).1) = _
  rw [h]

/-- The same backend, with a log of what is done to it. -/
def Backend.recorded (b : Backend (StateM σ) β) : Backend (StateM (σ × List Deed)) β where
  lookup q := logged (b.lookup q) fun answer => [.lookup q answer]
  openStream r := logged (b.openStream r) fun answer => [.openStream r (answer.map fun _ => ())]
  record r := logged (b.record r) fun _ => [.record r]
  freshId := logged b.freshId fun _ => []
  count e := logged (b.count e) fun _ => []

theorem recorded_lookup (b : Backend (StateM σ) β) (q : Cache.LookupRequest) :
    b.recorded.lookup q = logged (b.lookup q) fun answer => [.lookup q answer] := rfl

theorem recorded_openStream (b : Backend (StateM σ) β) (r : CompletionRequest) :
    b.recorded.openStream r =
      logged (b.openStream r) fun answer => [.openStream r (answer.map fun _ => ())] := rfl

theorem run_recorded_count (b : Backend (StateM σ) β) (e : Metrics.Event) (s : σ)
    (log : List Deed) : (b.recorded.count e).run (s, log) = ((), ((b.count e).run s).2, log) := by
  change ((), ((b.count e).run s).2, log ++ []) = _
  rw [List.append_nil]

/-- What a run that has ended does to others: it counts its outcome and submits its record. -/
theorem run_settleRun (b : Backend (StateM σ) Completion.Body) (run : Relay.Run) (s : σ)
    (log : List Deed) :
    ∃ s', (settleRun b.recorded run).run (s, log) =
      ((), s', log ++ run.submission?.toList.map .record) := by
  simp only [settleRun]
  cases run.submission? with
  | none =>
      rw [Option.toList_none, List.map_nil, List.append_nil]
      cases run.outcome with
      | none => exact ⟨s, rfl⟩
      | some o =>
          rw [run_bind (run_recorded_count b o.event s log)]
          exact ⟨_, rfl⟩
  | some record =>
      cases run.outcome with
      | none => exact ⟨_, rfl⟩
      | some o =>
          rw [run_bind (run_recorded_count b o.event s log)]
          exact ⟨_, rfl⟩

end Logged

variable {σ β : Type}

/-- What is done to find the source of an answer, and what comes of it. -/
inductive Seeks (question : RelayRequest) : List Deed → Except Fault (Relay.Prepared β) → Prop where
  | kept {found : Cache.LookupResult} (hit : found.hit = true) :
      Seeks question [.lookup ⟨question.prompt, question.model⟩ (.ok found)]
        (.ok ⟨question, .kept found.answer⟩)
  | refused {answer : Except Fault Cache.LookupResult} {f : Fault}
      (useless : ∀ found, answer = .ok found → found.hit = false) :
      Seeks question
        [.lookup ⟨question.prompt, question.model⟩ answer,
          .openStream question.toCompletion (.error f)]
        (.error f)
  | opened {answer : Except Fault Cache.LookupResult} {stream : β}
      (useless : ∀ found, answer = .ok found → found.hit = false) :
      Seeks question
        [.lookup ⟨question.prompt, question.model⟩ answer,
          .openStream question.toCompletion (.ok ())]
        (.ok ⟨question, .stream stream⟩)

theorem run_prepareStream {b : Backend (StateM σ) β} {question : RelayRequest} {s s' : σ}
    {opened : Except Fault β} (log : List Deed)
    (answered : (b.openStream question.toCompletion).run s = (opened, s')) :
    (Relay.prepareStream b.recorded.toServices question).run (s, log) =
      (opened.map fun stream => ⟨question, .stream stream⟩, s',
        log ++ [.openStream question.toCompletion (opened.map fun _ => ())]) := by
  rw [Relay.prepareStream, recorded_openStream, run_bind (run_logged answered)]
  cases opened <;> rfl

/-- Preparing looks once, and opens one stream if it finds nothing. -/
theorem seeks_prepare (b : Backend (StateM σ) β) (question : RelayRequest) (s : σ)
    (log : List Deed) :
    ∃ result s' deeds, (Relay.prepare b.recorded.toServices question).run (s, log) =
      (result, s', log ++ deeds) ∧ Seeks question deeds result := by
  obtain ⟨answer, s', answered⟩ :
      ∃ answer s', (b.lookup ⟨question.prompt, question.model⟩).run s = (answer, s') := ⟨_, _, rfl⟩
  obtain ⟨opened, s'', asked⟩ :
      ∃ opened s'', (b.openStream question.toCompletion).run s' = (opened, s'') := ⟨_, _, rfl⟩
  have stream := run_prepareStream (log ++ [.lookup ⟨question.prompt, question.model⟩ answer]) asked
  have seeks (useless : ∀ found, answer = .ok found → found.hit = false) :
      Seeks question [.lookup ⟨question.prompt, question.model⟩ answer,
        .openStream question.toCompletion (opened.map fun _ => ())]
        (opened.map fun stream => ⟨question, .stream stream⟩) := by
    cases opened with
    | ok stream => exact .opened useless
    | error f => exact .refused useless
  simp only [Relay.prepare, recorded_lookup]
  rw [run_bind (run_logged answered)]
  cases answer with
  | error f =>
      simp only [stream]
      rw [List.append_assoc]
      exact ⟨_, _, _, rfl, seeks fun _ none? => nomatch none?⟩
  | ok found =>
      cases hit : found.hit with
      | true =>
          simp only [hit]
          exact ⟨_, _, _, rfl, .kept hit⟩
      | false =>
          simp only [hit, Bool.false_eq_true, if_false, stream]
          rw [List.append_assoc]
          exact ⟨_, _, _, rfl, seeks fun _ same => Except.ok.inj same ▸ hit⟩

/-- Whether a reply is the error that a refusal means. -/
structure Refuses (refusal : Refusal) (reply : Reply (Content β)) : Prop where
  content : reply.content = .text (String.ofList refusal.body.write)
  json : ("content-type", "application/json") ∈ reply.headers
  status : reply.status = refusal.status
  failed : 400 ≤ reply.status

theorem refuses_ofFault (f : Fault) :
    Refuses (.ofFault f) ((Refusal.ofFault f).reply : Reply (Content β)) := by
  refine ⟨rfl, List.mem_cons_self, rfl, ?_⟩
  change 400 ≤ (Refusal.ofFault f).status
  cases f with
  | validation | provider | configuration | internal => exact Nat.le_of_ble_eq_true rfl
  | embedding | vectorStore | cache => exact Nat.le_of_ble_eq_true rfl

theorem refuses_unread {α : Type} {reader : Json.Reader α} {r : Request} {refusal : Refusal}
    (rejected : extract reader r = .error refusal) :
    Refuses refusal (refusal.reply : Reply (Content β)) := by
  refine ⟨rfl, List.mem_cons_self, rfl, ?_⟩
  change 400 ≤ refusal.status
  rw [extract] at rejected
  split at rejected
  · exact Except.error.inj rejected ▸ Nat.le_of_ble_eq_true rfl
  · split at rejected
    · exact Except.error.inj rejected ▸ Nat.le_of_ble_eq_true rfl
    · split at rejected
      · cases rejected
      · rename_i f _
        rw [← Except.error.inj rejected, failureRefusal]
        split <;> exact Nat.le_of_ble_eq_true rfl

/-- How a chat request can go: what makes it go so, how it is answered, what is done before the
reply, which records are submitted behind it, and which frames are sent. -/
inductive Course (allowMock : Bool) (r : Request) (reply : Reply (Content β)) :
    List Deed → List Cache.Record → List Relay.Frame → Prop where
  | unread {refusal : Refusal} (rejected : extract Chat.Request.reader r = .error refusal)
      (told : Refuses refusal reply) : Course allowMock r reply [] [] []
  | mocked {request : Chat.Request} (taken : extract Chat.Request.reader r = .ok request)
      (honoured : (allowMock && asksForMock r) = true)
      (content : reply.content = .mock request.model) : Course allowMock r reply [] [] []
  | invalid {request : Chat.Request} {f : Fault}
      (taken : extract Chat.Request.reader r = .ok request)
      (unmocked : (allowMock && asksForMock r) = false) (invalid : request.toRelay = .error f)
      (told : Refuses (.ofFault f) reply) : Course allowMock r reply [] [] []
  | kept {request : Chat.Request} {found : Cache.LookupResult} {sent : List Relay.Frame}
      (taken : extract Chat.Request.reader r = .ok request)
      (unmocked : (allowMock && asksForMock r) = false)
      (valid : request.toRelay = .ok request.question) (hit : found.hit = true)
      (content : reply.content = .answer ⟨request.question, .kept found.answer⟩) :
      Course allowMock r reply
        [.lookup ⟨request.question.prompt, request.model⟩ (.ok found)] [] sent
  | unopened {request : Chat.Request} {answer : Except Fault Cache.LookupResult} {f : Fault}
      (taken : extract Chat.Request.reader r = .ok request)
      (unmocked : (allowMock && asksForMock r) = false)
      (valid : request.toRelay = .ok request.question)
      (useless : ∀ found, answer = .ok found → found.hit = false)
      (told : Refuses (.ofFault f) reply) :
      Course allowMock r reply
        [.lookup ⟨request.question.prompt, request.model⟩ answer,
          .openStream
            ⟨request.model, request.question.prompt, request.temperature, request.maxTokens⟩
            (.error f)] [] []
  | streamed {request : Chat.Request} {answer : Except Fault Cache.LookupResult} {stream : β}
      {records : List Cache.Record} {sent : List Relay.Frame}
      (taken : extract Chat.Request.reader r = .ok request)
      (unmocked : (allowMock && asksForMock r) = false)
      (valid : request.toRelay = .ok request.question)
      (useless : ∀ found, answer = .ok found → found.hit = false)
      (content : reply.content = .answer ⟨request.question, .stream stream⟩)
      (once : records.length ≤ 1)
      (same : ∀ record ∈ records,
        record.prompt = request.question.prompt ∧ record.model = request.model) :
      Course allowMock r reply
        [.lookup ⟨request.question.prompt, request.model⟩ answer,
          .openStream
            ⟨request.model, request.question.prompt, request.temperature, request.maxTokens⟩
            (.ok ())] records sent

theorem course_chat (b : Backend (StateM σ) β) (allowMock : Bool) (r : Request) (s : σ) :
    let after := (chat b.recorded allowMock r).run (s, [])
    Course allowMock r after.1 after.2.2 [] [] := by
  rw [chat]
  split
  · rename_i refusal rejected
    exact .unread rejected (refuses_unread rejected)
  · rename_i request taken
    cases honoured : allowMock && asksForMock r with
    | true => exact .mocked taken honoured rfl
    | false =>
        simp only [Bool.false_eq_true, if_false]
        split
        · rename_i f invalid
          exact .invalid taken honoured invalid (refuses_ofFault f)
        · rename_i question valid
          obtain rfl := Chat.Request.toRelay_ok valid
          obtain ⟨result, s', deeds, prepared, seeks⟩ := seeks_prepare b request.question s []
          rw [run_bind prepared, List.nil_append]
          cases seeks with
          | kept hit => exact .kept taken honoured valid hit rfl
          | @refused answer f useless =>
              exact .unopened taken honoured valid useless (refuses_ofFault f)
          | @opened answer stream useless =>
              exact .streamed taken honoured valid useless rfl (Nat.zero_le 1)
                fun _ none? => nomatch none?

/-- More headers make no difference. -/
theorem Refuses.wrap {refusal : Refusal} {reply reply' : Reply (Content β)}
    (told : Refuses refusal reply) (content : reply'.content = reply.content)
    (status : reply'.status = reply.status) (headers : reply.headers ⊆ reply'.headers) :
    Refuses refusal reply' :=
  ⟨content.trans told.content, headers told.json, status.trans told.status, status ▸ told.failed⟩

theorem Course.wrap {allowMock : Bool} {r : Request} {reply reply' : Reply (Content β)}
    {deeds : List Deed} {records : List Cache.Record} {sent : List Relay.Frame}
    (course : Course allowMock r reply deeds records sent)
    (content : reply'.content = reply.content) (status : reply'.status = reply.status)
    (headers : reply.headers ⊆ reply'.headers) : Course allowMock r reply' deeds records sent := by
  cases course with
  | unread rejected told => exact .unread rejected (told.wrap content status headers)
  | mocked taken honoured mock => exact .mocked taken honoured (content.trans mock)
  | invalid taken unmocked invalid told =>
      exact .invalid taken unmocked invalid (told.wrap content status headers)
  | kept taken unmocked valid hit answer =>
      exact .kept taken unmocked valid hit (content.trans answer)
  | unopened taken unmocked valid useless told =>
      exact .unopened taken unmocked valid useless (told.wrap content status headers)
  | streamed taken unmocked valid useless answer once same =>
      exact .streamed taken unmocked valid useless (content.trans answer) once same

/-- A chat request reaches its endpoint, whichever page of numbers the service has beside it. -/
theorem respond_chat {m : Type → Type} [Monad m] [LawfulMonad m] (b : Backend m β)
    (allowMock : Bool) (page : Option NumbersPage) {r : Request} (post : r.method = "POST")
    (path : r.path = Endpoint.chat.path) :
    (gateway b allowMock page).respond r = (do
      let id ← (gateway b allowMock page).requestId r
      let reply ← chat b allowMock r
      b.count (.request r.method Endpoint.chat.path reply.status)
      return (Service.openToAll reply).withHeader "x-request-id" id) := by
  have found : (gateway b allowMock page).endpoints.find? (·.path == r.path) = some .chat := by
    rw [path]
    rfl
  have serves : Endpoint.chat.serves r.method = true := by rw [post]; rfl
  have inner : (gateway b allowMock page).innerReply r (some .chat) =
      Service.openToAll <$> chat b allowMock r := by
    have head : (r.method == "HEAD") = false := by rw [post]; decide
    have options : (r.method == "OPTIONS") = false := by rw [post]; decide
    simp [Service.innerReply, Service.endpointReply, serves, head, options, gateway, handle]
  have inside : (gateway b allowMock page).respondInside r = (do
      let id ← (gateway b allowMock page).requestId r
      let reply ← chat b allowMock r
      b.count (.request r.method Endpoint.chat.path reply.status)
      return (Service.openToAll reply).withHeader "x-request-id" id) := by
    rw [Service.respondInside, found, inner]
    simp only [map_eq_pure_bind, bind_assoc, pure_bind]
    rfl
  rw [← inside, Service.respond, found]
  cases page with
  | none => rfl
  | some page => simp [gateway, serves]

theorem course_respond (b : Backend (StateM σ) β) (allowMock : Bool) (page : Option NumbersPage)
    {r : Request} (post : r.method = "POST") (path : r.path = Endpoint.chat.path) (s : σ) :
    let after := ((gateway b.recorded allowMock page).respond r).run (s, [])
    Course allowMock r after.1 after.2.2 [] [] := by
  have quiet : ∃ id s', ((gateway b.recorded allowMock page).requestId r).run (s, []) =
      (id, s', []) := by
    unfold Service.requestId
    split
    · split
      · exact ⟨_, _, rfl⟩
      · exact ⟨_, _, rfl⟩
    · exact ⟨_, _, rfl⟩
  obtain ⟨id, s', requested⟩ := quiet
  obtain ⟨reply, s'', deeds, answered⟩ : ∃ reply s'' deeds,
      (chat b.recorded allowMock r).run (s', []) = (reply, s'', deeds) := ⟨_, _, _, rfl⟩
  have course := course_chat b allowMock r s'
  rw [answered] at course
  rw [respond_chat b.recorded allowMock page post path, run_bind requested, run_bind answered,
    run_bind (run_recorded_count b _ s'' deeds)]
  refine course.wrap rfl rfl ?_
  intro header member
  exact List.mem_append_left _ (List.mem_append_left _ (List.mem_append_left _ member))

end Http

end AnswerGateway
