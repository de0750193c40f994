import AnswerGateway.Proofs.Cache.Filled
import AnswerGateway.Proofs.Gateway.Traffic
import AnswerGateway.Proofs.Relay.Answer

/-!
Where the answers of the cache come from. Whatever else goes on at a gateway, an answer that a chat
is given from the cache is the answer that a provider gave earlier to a request for the same model,
and one that the policy allows to be kept. Under the strictest policy it is the whole answer.
-/

namespace AnswerGateway

open Cache Relay

/-- What holds of a chat at all times. -/
structure Chat.Sound (setup : Setup) (chat : Chat) : Prop where
  preparing : ∀ asking, chat.stage = .preparing asking → Prepares chat.request asking
  answering : ∀ prepared passage, chat.stage = .answering prepared passage →
    prepared.request = chat.request ∧ passage.Answers chat.request setup.policy

theorem Chat.kept?_eq_some {chat : Chat} {answer : String} (h : chat.kept? = some answer) :
    ∃ request passage, chat.stage = .answering ⟨request, .kept answer⟩ passage := by
  unfold kept? at h
  split at h
  · rename_i request answer' passage stage
    cases h
    exact ⟨request, passage, stage⟩
  · cases h

theorem Setup.path_answers (setup : Setup) (prepared : Prepared Unit) :
    Passage.Answers prepared.request setup.policy { path := setup.path prepared } := by
  obtain ⟨request, origin⟩ := prepared
  cases origin with
  | kept answer =>
      exact @Passage.answers_opened (setup.path ⟨request, .kept answer⟩) rfl rfl rfl
        fun source => nomatch source
  | stream stream =>
      refine @Passage.answers_opened (setup.path ⟨request, .stream stream⟩) rfl rfl rfl fun _ => ?_
      refine ⟨?_, rfl, ?_, ?_, ?_⟩
      · exact fun c member => nomatch member
      · exact fun f member => nomatch member
      · exact fun _ c member => nomatch member
      · exact fun tokens following => nomatch following

theorem Setup.stage_done (setup : Setup) (prepared : Prepared Unit) :
    Chat.Sound setup ⟨prepared.request, setup.stage (.done (.ok prepared))⟩ := by
  refine ⟨?_, ?_⟩
  · exact fun asking h => nomatch h
  · intro other passage h
    cases h
    exact ⟨rfl, setup.path_answers prepared⟩

theorem Setup.stage_refused (setup : Setup) (request : RelayRequest) (f : Fault) :
    Chat.Sound setup ⟨request, setup.stage (.done (.error f))⟩ := by
  refine ⟨?_, ?_⟩
  · exact fun asking h => nomatch h
  · exact fun prepared passage h => nomatch h

theorem Setup.stage_eq_preparing (setup : Setup) {request : RelayRequest}
    {asking : Asking (Except Fault (Prepared Unit))} (h : Prepares request asking) :
    setup.stage asking = .preparing asking := by
  cases h <;> rfl

theorem Setup.stage_prepares {setup : Setup} {request : RelayRequest}
    {asking : Asking (Except Fault (Prepared Unit))} (h : Prepares request asking) :
    Chat.Sound setup ⟨request, setup.stage asking⟩ := by
  rw [setup.stage_eq_preparing h]
  refine ⟨?_, ?_⟩
  · intro other same
    cases same
    exact h
  · exact fun prepared passage h => nomatch h

theorem Chat.Sound.lookedUp {setup : Setup} {chat : Chat} {question : LookupRequest}
    {next : Except Fault LookupResult → Asking (Except Fault (Prepared Unit))}
    (h : chat.Sound setup) (asks : chat.stage = .preparing (.lookup question next))
    (answer : Except Fault LookupResult) :
    Chat.Sound setup { chat with stage := setup.stage (next answer) } := by
  cases h.preparing _ asks with
  | looking found missed =>
      by_cases hit : ∃ result, answer = .ok result ∧ result.hit = true
      · obtain ⟨result, rfl, hit⟩ := hit
        rw [found result hit]
        exact setup.stage_done ⟨chat.request, .kept result.answer⟩
      · refine Setup.stage_prepares (missed answer fun result hresult => ?_)
        cases hresult' : result.hit with
        | false => rfl
        | true => exact absurd ⟨result, hresult, hresult'⟩ hit

theorem Chat.Sound.streamed {setup : Setup} {chat : Chat} {request : CompletionRequest}
    {next : Except Fault Unit → Asking (Except Fault (Prepared Unit))} (h : chat.Sound setup)
    (asks : chat.stage = .preparing (.openStream request next)) (answer : Except Fault Unit) :
    Chat.Sound setup { chat with stage := setup.stage (next answer) } := by
  cases h.preparing _ asks with
  | opening opened refused =>
      cases answer with
      | ok =>
          rw [opened]
          exact setup.stage_done ⟨chat.request, .stream ()⟩
      | error f =>
          rw [refused]
          exact setup.stage_refused chat.request f

namespace Gateway

/-- Whether a record was submitted by the run of one of the chats. -/
def Submitted (g : Gateway) (r : Record) : Prop :=
  ∃ (index : Nat) (chat : Chat) (prepared : Prepared Unit) (passage : Passage),
    g.chats[index]? = some chat ∧ chat.stage = .answering prepared passage ∧
      passage.path.run.submission? = some r

/-- What holds of a gateway at all times. -/
structure Honest (setup : Setup) (g : Gateway) : Prop where
  numbered : g.site.ledger.Numbered g.site.engine
  filled : g.site.Filled
  accepted : ∀ r ∈ g.site.ledger.accepted, g.Submitted r
  tasks : ∀ r ∈ g.tasks, g.Submitted r
  chats : ∀ (index : Nat) (chat : Chat), g.chats[index]? = some chat → chat.Sound setup

variable {setup : Setup} {g : Gateway} {index : Nat} {chat : Chat} {stage : Stage}

/-- A chat that goes on leaves the others as they are, and what it has submitted itself. -/
theorem Submitted.setStage {site : Site Store.Memory} {tasks : List Record} {r : Record}
    (h : g.Submitted r) (stands : g.chats[index]? = some chat)
    (keeps : ∀ prepared passage, chat.stage = .answering prepared passage →
      passage.path.run.submission? = some r →
      ∃ prepared passage, stage = .answering prepared passage ∧
        passage.path.run.submission? = some r) :
    (Gateway.setStage { g with site, tasks } index chat stage).Submitted r := by
  obtain ⟨other, chatOther, prepared, passage, hother, answers, submitted⟩ := h
  obtain ⟨hindex, -⟩ := List.getElem?_eq_some_iff.mp stands
  by_cases same : index = other
  · subst same
    obtain rfl := Option.some.inj (stands.symm.trans hother)
    obtain ⟨prepared, passage, hstage, hsubmitted⟩ := keeps prepared passage answers submitted
    exact ⟨index, _, prepared, passage, List.getElem?_set_self hindex, hstage, hsubmitted⟩
  · refine ⟨other, chatOther, prepared, passage, ?_, answers, submitted⟩
    rw [← hother]
    exact List.getElem?_set_ne same

theorem sound_setStage {site : Site Store.Memory} {tasks : List Record}
    (h : ∀ (index : Nat) (chat : Chat), g.chats[index]? = some chat → chat.Sound setup)
    (sound : Chat.Sound setup { chat with stage }) :
    ∀ (other : Nat) (chatOther : Chat),
      (setStage { g with site, tasks } index chat stage).chats[other]? = some chatOther →
        chatOther.Sound setup := by
  intro other chatOther hother
  rcases getElem?_set_cases hother with ⟨rfl, rfl⟩ | ⟨-, before⟩
  · exact sound
  · exact h other chatOther before

/-- What was submitted stays submitted: a run that has ended does nothing more. -/
theorem submitted_step {g' : Gateway} {a : Action} {r : Record} (h : g.Submitted r)
    (step : Step setup g a g') : g'.Submitted r := by
  cases step with
  | arrived =>
      obtain ⟨index, chat, prepared, passage, stands, answers, submitted⟩ := h
      have hindex := (List.getElem?_eq_some_iff.mp stands).1
      refine ⟨index, chat, prepared, passage, ?_, answers, submitted⟩
      rw [List.getElem?_append_left hindex, stands]
  | lookedUp stands asks =>
      exact h.setStage stands fun prepared passage answers => by simp [asks] at answers
  | streamed stands asks =>
      exact h.setStage stands fun prepared passage answers => by simp [asks] at answers
  | @relayed index chat action prepared passage after stands answers moves =>
      refine h.setStage stands fun prepared' passage' answers' submitted => ?_
      -- A run submits by its end, and does not change after it.
      obtain ⟨rfl, rfl⟩ := Stage.answering.inj (answers.symm.trans answers')
      have ended : passage.path.run.outcome.isSome = true := by
        unfold Run.submission? at submitted
        split at submitted
        · rename_i o outcome
          simp [outcome]
        · cases submitted
      refine ⟨prepared, after, rfl, ?_⟩
      rw [Passage.run_of_ended ended (Passage.step_of_step? moves), submitted]
  | submitted | cached => exact h

theorem honest_step {g' : Gateway} {a : Action} (h : Honest setup g) (step : Step setup g a g') :
    Honest setup g' := by
  have accepted : ∀ r ∈ g.site.ledger.accepted, g'.Submitted r := fun r member =>
    submitted_step (h.accepted r member) step
  have tasks : ∀ r ∈ g.tasks, g'.Submitted r := fun r member =>
    submitted_step (h.tasks r member) step
  cases step with
  | @arrived request =>
      refine ⟨h.numbered, h.filled, accepted, tasks, fun index chat stands => ?_⟩
      by_cases before : index < g.chats.length
      · rw [List.getElem?_append_left before] at stands
        exact h.chats index chat stands
      · rw [List.getElem?_append_right (Nat.not_lt.mp before)] at stands
        obtain rfl := List.mem_singleton.mp (List.mem_of_getElem? stands)
        exact Setup.stage_prepares (prepares_preparing request)
  | @lookedUp index chat vector question next stands asks =>
      refine ⟨?_, ?_, ?_, tasks, ?_⟩
      · simpa [setStage] using h.numbered
      · exact Site.filled_step h.filled h.numbered .lookedUp
      · simpa [setStage] using accepted
      · exact sound_setStage h.chats ((h.chats index chat stands).lookedUp asks _)
  | @streamed index chat answer request next stands asks =>
      exact ⟨h.numbered, h.filled, accepted, tasks,
        sound_setStage h.chats ((h.chats index chat stands).streamed asks _)⟩
  | @relayed index chat action prepared passage after stands answers moves =>
      obtain ⟨request, hanswers⟩ := (h.chats index chat stands).answering prepared passage answers
      obtain ⟨hindex, -⟩ := List.getElem?_eq_some_iff.mp stands
      refine ⟨h.numbered, h.filled, accepted, ?_, sound_setStage h.chats ⟨?_, ?_⟩⟩
      · intro r member
        rcases List.mem_append.mp member with before | new
        · exact tasks r before
        · -- A new record comes from the run that has just ended.
          refine ⟨index, _, prepared, after, List.getElem?_set_self hindex, rfl, ?_⟩
          unfold submitted at new
          split at new
          · simpa using new
          · cases new
      · exact fun asking h => nomatch h
      · intro prepared' passage' same
        cases same
        exact ⟨request, Passage.answers_step hanswers (Passage.step_of_step? moves)⟩
  | @submitted task r waits =>
      have step : Site.Step .memory g.site (.offer r) (g.site.offer r).2 := Site.step_offer g.site r
      refine ⟨Site.numbered_step h.numbered step, Site.filled_step h.filled h.numbered step, ?_, ?_,
        h.chats⟩
      · intro other member
        rcases Site.mem_accepted_offer member with before | rfl
        · exact accepted other before
        · exact tasks other (List.mem_of_getElem? waits)
      · exact fun other member => tasks other (List.mem_of_mem_eraseIdx member)
  | cached inside moves =>
      have step := Site.step_of_step? moves
      refine ⟨Site.numbered_step h.numbered step, Site.filled_step h.filled h.numbered step, ?_,
        tasks, h.chats⟩
      rw [Site.accepted_of_not_offer step inside]
      exact accepted

theorem honest_opened {settings : Settings} {dimensions : Nat} {engine : Engine} {created : Bool}
    {store : Store.Memory}
    (started : (Engine.start Store.Memory.calls settings dimensions).run {} =
      (.ok (engine, created), store)) : Honest setup (opened engine store) := by
  obtain ⟨-, -, rfl, ensured⟩ := Engine.start_eq_ok started
  rw [Store.Memory.ensure_empty] at ensured
  cases ensured
  refine ⟨?_, ?_, ?_, ?_, ?_⟩
  · exact Site.numbered_opened settings _
  · rintro p ⟨c, hc, hp⟩
    obtain rfl := List.mem_singleton.mp hc
    cases hp
  · exact fun r member => nomatch member
  · exact fun r member => nomatch member
  · exact fun index chat stands => nomatch stands

/-- A run of a chat that has given this answer to a request for this model, and whose end the policy
accepts. -/
structure Gave (setup : Setup) (g : Gateway) (model answer : String) (chat : Chat)
    (passage : Passage) (o : Outcome) : Prop where
  member : chat ∈ g.chats
  stands : ∃ prepared, chat.stage = .answering prepared passage
  asked : passage.path.run.request = chat.request
  sameModel : chat.request.model = model
  ended : passage.path.run.outcome = some o
  fromProvider : o.source = .provider
  sameAnswer : o.answer = answer
  allowed : setup.policy.allows o.termination = true
  /-- The chunks that it has taken are the first of its stream. -/
  consumed : passage.consumed <+: passage.arrived
  /-- Under the strictest policy they end with one that says that the answer is whole, there is no
  error among them, and the answer is their text. -/
  whole : setup.policy = .never → Whole passage.consumed ∧ answer = textOf passage.consumed

/-- What a submitted record holds was given by the run that submitted it. -/
theorem Honest.gave {r : Record} (h : Honest setup g) (submitted : g.Submitted r) :
    r.response ≠ "" ∧ ∃ chat passage o, g.Gave setup r.model r.response chat passage o := by
  obtain ⟨index, chat, prepared, passage, stands, answers, hsubmitted⟩ := submitted
  obtain ⟨-, sound⟩ := (h.chats index chat stands).answering prepared passage answers
  obtain ⟨o, ended, source, answer, model, nonempty, allowed, whole⟩ :=
    sound.of_submission hsubmitted
  refine ⟨nonempty, chat, passage, o, List.mem_of_getElem? stands, ⟨prepared, answers⟩,
    sound.request, model, ended, source, answer, allowed, sound.consumed, fun never => ?_⟩
  have completed : o.termination = .completed := by
    rw [never] at allowed
    cases hterm : o.termination with
    | completed => rfl
    | providerError message => simp [WriteBack.allows, hterm] at allowed
    | clientGone => simp [WriteBack.allows, hterm] at allowed
  exact answer ▸ whole completed

/-- When a lookup resolves a chat to the cache, the chat is given the response of an accepted record
of its model. -/
theorem Honest.lookedUp_kept {question : LookupRequest}
    {next : Except Fault LookupResult → Asking (Except Fault (Prepared Unit))}
    {vector : Except Fault Vector} {request : RelayRequest} {passage : Passage} {answer : String}
    (h : Honest setup g) (stands : g.chats[index]? = some chat)
    (asks : chat.stage = .preparing (.lookup question next))
    (kept : setup.stage (next (g.site.lookup .memory question vector).1) =
      .answering ⟨request, .kept answer⟩ passage) :
    request = chat.request ∧ passage = { path := setup.path ⟨request, .kept answer⟩ } ∧
      ∃ r ∈ g.site.ledger.accepted, r.response = answer ∧ r.model = chat.request.model := by
  cases (h.chats index chat stands).preparing _ asks with
  | looking found missed =>
      cases hanswer : (g.site.lookup .memory
          { prompt := chat.request.prompt, model := chat.request.model } vector).1 with
      | error f =>
          rw [hanswer,
            setup.stage_eq_preparing (missed (.error f) fun result same => nomatch same)] at kept
          cases kept
      | ok result =>
          cases hit : result.hit with
          | false =>
              have miss := missed (.ok result) fun other same => by
                cases same
                exact hit
              rw [hanswer, setup.stage_eq_preparing miss] at kept
              cases kept
          | true =>
              rw [hanswer, found result hit] at kept
              cases kept
              exact ⟨rfl, rfl, Site.lookup_found h.filled hanswer hit⟩

/-- In every run of a gateway whose cache was started over an empty store: when a chat is resolved
to the cache, what it will be given is not empty, and an earlier run has given just that, as the
answer of a provider to a request for the same model, and has ended in a way that the policy
accepts. -/
theorem resolved_given {settings : Settings} {dimensions : Nat} {engine : Engine} {created : Bool}
    {store : Store.Memory} {actions : List Action} {a : Action} {g' : Gateway} {answer : String}
    (started : (Engine.start Store.Memory.calls settings dimensions).run {} =
      (.ok (engine, created), store))
    (run : (opened engine store).run? setup actions = some g)
    (resolves : g.step? setup a = some g')
    (before : g.chats[index]?.bind Chat.kept? = none)
    (after : g'.chats[index]? = some chat) (kept : chat.kept? = some answer) :
    chat.stage = .answering ⟨chat.request, .kept answer⟩
        { path := setup.path ⟨chat.request, .kept answer⟩ } ∧
      answer ≠ "" ∧
      ∃ earlier passage o, g.Gave setup chat.request.model answer earlier passage o := by
  have honest : Honest setup g := run_induction (honest_opened started)
    (fun _ _ _ h step => honest_step h step) run
  obtain ⟨request, passage, stage⟩ := Chat.kept?_eq_some kept
  -- A chat that was there before and does not move now was not resolved now.
  have moved : g.chats[index]? ≠ some chat := fun same => by simp [same, kept] at before
  cases step_of_step? resolves with
  | @arrived other =>
      by_cases old : index < g.chats.length
      · exact absurd (List.getElem?_append_left old ▸ after) moved
      · rw [List.getElem?_append_right (Nat.not_lt.mp old)] at after
        obtain rfl := List.mem_singleton.mp (List.mem_of_getElem? after)
        rw [setup.stage_eq_preparing (prepares_preparing other)] at stage
        cases stage
  | @lookedUp place looking vector question next stands asks =>
      rcases getElem?_set_cases after with ⟨rfl, rfl⟩ | ⟨-, same⟩
      · obtain ⟨rfl, rfl, r, accepted, response, model⟩ :=
          honest.lookedUp_kept stands asks stage
        obtain ⟨nonempty, given⟩ := honest.gave (honest.accepted r accepted)
        rw [response, model] at given
        exact ⟨stage, response ▸ nonempty, given⟩
      · exact absurd same moved
  | @streamed place opening answer' request' next stands asks =>
      rcases getElem?_set_cases after with ⟨rfl, rfl⟩ | ⟨-, same⟩
      · -- What the provider opens is a stream.
        cases (honest.chats place opening stands).preparing _ asks with
        | opening opened refused =>
            cases answer' with
            | ok =>
                rw [opened] at stage
                cases stage
            | error f =>
                rw [refused] at stage
                cases stage
      · exact absurd same moved
  | @relayed place answering action prepared passage' moved' stands answers moves =>
      rcases getElem?_set_cases after with ⟨rfl, rfl⟩ | ⟨-, same⟩
      · obtain ⟨rfl, -⟩ := Stage.answering.inj stage
        simp [stands, Chat.kept?, answers] at before
      · exact absurd same moved
  | submitted => exact absurd after moved
  | cached => exact absurd after moved

def smallSetup : Setup := { policy := .never, replaySize := 4, chunkRoom := 1, frameRoom := 1 }

/-- One chat is answered by the provider and its answer is kept, although the client leaves before
it has been told that it has the whole of it; another chat asks the same. -/
def smallTraffic : List Action :=
  let question : RelayRequest := { model := "model", prompt := "question" }
  [.arrive question, .lookUp 0 (.ok [1]), .openStream 0 (.ok ()),
    .relay 0 (.feed (.ofContent "answer")), .relay 0 .run, .relay 0 .run, .relay 0 .take,
    .relay 0 (.feed (.finished 3)), .relay 0 .run, .relay 0 .cancel, .relay 0 .run, .submit 0,
    .cache (.move 0 .acquire), .cache (.move 0 .receive), .cache (.embed 0 (.ok [1])),
    .cache (.upsert 0 "id" .null), .arrive question]

/-- The other chat is given the answer of the first. -/
theorem resolved_given_small :
    ∃ (g : Gateway) (chat earlier : Chat) (passage : Passage) (o : Outcome),
      (opened (Engine.idle .small) Settings.smallStore).run? smallSetup smallTraffic = some g ∧
      chat.kept? = some "answer" ∧
      g.Gave smallSetup chat.request.model "answer" earlier passage o := by
  have happens : ((opened (Engine.idle .small) Settings.smallStore).run? smallSetup
      smallTraffic).map (fun g => (g.chats[1]?.bind Chat.kept?,
        (g.step? smallSetup (.lookUp 1 (.ok [1]))).bind fun g' => g'.chats[1]?.bind Chat.kept?)) =
      some (none, some "answer") := by
    decide +kernel
  obtain ⟨g, run, views⟩ := Option.map_eq_some_iff.mp happens
  obtain ⟨before, resolved⟩ := Prod.mk.inj views
  obtain ⟨g', resolves, hchat⟩ := Option.bind_eq_some_iff.mp resolved
  obtain ⟨chat, after, kept⟩ := Option.bind_eq_some_iff.mp hchat
  obtain ⟨-, -, earlier, passage, o, given⟩ :=
    resolved_given Engine.start_small run resolves before after kept
  exact ⟨g, chat, earlier, passage, o, run, kept, given⟩

end Gateway

end AnswerGateway
