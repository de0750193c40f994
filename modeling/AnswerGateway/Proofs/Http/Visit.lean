import AnswerGateway.Proofs.Relay.Schedule
import AnswerGateway.Proofs.Relay.Submission

/-!
A chat request from its arrival to the end of its answer, whatever happens in between. After the
reply only the run of an answer goes on: it sends frames, and may submit a record. So what is done
to the cache and to the provider is settled by how the request is answered, and an error is told
only to a client that has been sent nothing.
-/

namespace AnswerGateway

open Relay

namespace Relay.Account

/-- A run submits at most one record, of the request that it answers, and none of a kept answer. -/
theorem submitted_run {setup : Setup} {pump : Option Completion.Pump} {prepared : Prepared Unit}
    {actions : List Passage.Action} {a : Account}
    (run : (opened (setup.pathFrom pump prepared)).run? actions = some a) :
    a.submitted.length ≤ 1 ∧
      (∀ record ∈ a.submitted,
        record.prompt = prepared.request.prompt ∧ record.model = prepared.request.model) ∧
      (prepared.source = .cache → a.submitted = []) := by
  have submits := (balanced_run run).submits
  cases outcome : a.passage.path.run.outcome with
  | none =>
      rw [submits.before outcome]
      exact ⟨Nat.zero_le 1, (fun _ none? => nomatch none?), fun _ => rfl⟩
  | some o =>
      rw [submits.ended o outcome]
      split
      · rename_i provider
        refine ⟨Nat.le_refl 1, ?_, ?_⟩
        · intro record member
          rw [List.mem_singleton.mp member]
          exact ⟨rfl, rfl⟩
        · intro kept
          rw [provider.1] at kept
          cases kept
      · exact ⟨Nat.zero_le 1, (fun _ none? => nomatch none?), fun _ => rfl⟩

end Relay.Account

namespace Http

variable {σ β : Type}

/-- A chat request that has been replied to, with an account of its answer if there is one. -/
structure Visit (β : Type) where
  reply : Reply (Content β)
  /-- What was done before the reply. -/
  before : List Deed
  account : Option Account

namespace Visit

/-- The account that an answer begins with. A stream is pumped, or fed by a provider from outside;
neither a text nor made-up events have an account. -/
def account? (setup : Setup) (pump : β → Option Completion.Pump) : Content β → Option Account
  | .answer ⟨request, .kept answer⟩ => some (.opened (setup.pathFrom none ⟨request, .kept answer⟩))
  | .answer ⟨request, .stream stream⟩ =>
    some (.opened (setup.pathFrom (pump stream) ⟨request, .stream ()⟩))
  | .text _ | .mock _ => none

def opened (setup : Setup) (pump : β → Option Completion.Pump) (b : Backend (StateM σ) β)
    (allowMock : Bool) (page : Option NumbersPage) (r : Request) (s : σ) : Visit β :=
  let (reply, _, before) := ((gateway b.recorded allowMock page).respond r).run (s, [])
  { reply, before, account := account? setup pump reply.content }

/-- The visit after a step of those who work on its answer. -/
def step? (v : Visit β) (a : Passage.Action) : Option (Visit β) :=
  v.account.bind fun account =>
    (account.step? a).map fun after => { v with account := some after }

def run? (v : Visit β) (actions : List Passage.Action) : Option (Visit β) :=
  Trace.run? step? v actions

def records (v : Visit β) : List Cache.Record := v.account.elim [] Account.submitted

def sent (v : Visit β) : List Frame := v.account.elim [] Account.sent

/-- A visit goes on as the account of its answer does. -/
theorem run_account {v v' : Visit β} {actions : List Passage.Action}
    (run : v.run? actions = some v') :
    v'.reply = v.reply ∧ v'.before = v.before ∧
      ((v.account = none ∧ v'.account = none) ∨
        ∃ account account', v.account = some account ∧ account.run? actions = some account' ∧
          v'.account = some account') := by
  induction actions generalizing v with
  | nil =>
      obtain rfl : v = v' := Option.some.inj run
      cases h : v.account with
      | none => exact ⟨rfl, rfl, .inl ⟨rfl, rfl⟩⟩
      | some account => exact ⟨rfl, rfl, .inr ⟨account, account, rfl, rfl, rfl⟩⟩
  | cons a rest ih =>
      obtain ⟨next, step, going⟩ := (Trace.run?_cons step?).mp run
      obtain ⟨account, h, moved⟩ := Option.bind_eq_some_iff.mp step
      obtain ⟨account', moved', rfl⟩ := Option.map_eq_some_iff.mp moved
      obtain ⟨reply, before, ⟨gone, -⟩ | ⟨_, last, stands, run', same⟩⟩ := ih going
      · cases gone
      · cases stands
        refine ⟨reply, before, .inr ⟨account, last, h, ?_, same⟩⟩
        exact (Trace.run?_cons Account.step?).mpr ⟨account', moved', run'⟩

/-- Whatever the cache and the provider answer, and whoever moves when behind the reply, a chat
request takes one of six courses. -/
theorem run_course (setup : Setup) (pump : β → Option Completion.Pump) (b : Backend (StateM σ) β)
    (allowMock : Bool) (page : Option NumbersPage) {r : Request} (s : σ) (post : r.method = "POST")
    (path : r.path = Endpoint.chat.path) {actions : List Passage.Action} {v : Visit β}
    (run : (opened setup pump b allowMock page r s).run? actions = some v) :
    Course allowMock r v.reply v.before v.records v.sent := by
  have course : Course allowMock r (opened setup pump b allowMock page r s).reply
      (opened setup pump b allowMock page r s).before [] [] :=
    course_respond b allowMock page post path s
  obtain ⟨reply, before, ⟨none, none'⟩ | ⟨account, account', begun, run', same⟩⟩ := run_account run
  · rw [records, sent, none', reply, before]
    exact course
  · have answering : account? setup pump v.reply.content = some account := reply ▸ begun
    rw [← reply, ← before] at course
    rw [records, sent, same]
    generalize v.before = deeds at course ⊢
    cases course with
    | unread _ told | invalid _ _ _ told | unopened _ _ _ _ told =>
        rw [told.content] at answering
        cases answering
    | mocked _ _ content =>
        rw [content] at answering
        cases answering
    | kept taken unmocked valid hit content =>
        rw [content] at answering
        cases answering
        obtain ⟨-, -, nothing⟩ := Account.submitted_run run'
        rw [Option.elim_some, nothing rfl]
        exact .kept taken unmocked valid hit content
    | streamed taken unmocked valid useless content =>
        rw [content] at answering
        cases answering
        obtain ⟨once, same, -⟩ := Account.submitted_run run'
        exact .streamed taken unmocked valid useless content once same

/-- A question that the cache does not know is asked once, and its answer recorded. -/
theorem run_course_asked :
    let backend : Backend (StateM Unit) Unit := {
      lookup := fun _ => pure (.ok .miss)
      openStream := fun _ => pure (.ok ())
      record := fun _ => pure true
      freshId := pure "id"
      count := fun _ => pure () }
    let request : Request := {
      method := "POST"
      path := "/v1/chat/completions"
      headers := [("content-type", Text.utf8 "application/json")]
      body := Text.utf8
        "\x7b\"model\":\"m\",\"messages\":[\x7b\"role\":\"user\",\"content\":\"q\"\x7d]\x7d" }
    ∃ v, (opened ⟨.never, 20, 1, 1⟩ (fun _ => none) backend false none request ()).run?
        [.feed { content := "a", done := true, tokenUsage := 5 }, .run, .run, .close, .run] =
          some v ∧
      v.before.length = 2 ∧ v.records = [⟨"q", "a", "m", 5⟩] ∧
      Course false request v.reply v.before v.records v.sent := by
  intro backend request
  have happens : ((opened ⟨.never, 20, 1, 1⟩ (fun _ => none) backend false none request ()).run?
      [.feed { content := "a", done := true, tokenUsage := 5 }, .run, .run, .close, .run]).map
        (fun v => (v.before.length, v.records)) = some (2, [⟨"q", "a", "m", 5⟩]) := by
    decide +kernel
  obtain ⟨v, run, same⟩ := Option.map_eq_some_iff.mp happens
  obtain ⟨before, records⟩ := Prod.mk.inj same
  exact ⟨v, run, before, records, run_course _ _ _ _ _ _ rfl rfl run⟩

/-- The account of an answer goes on as the visit does. -/
theorem run_of_account {v : Visit β} {account account' : Account} {actions : List Passage.Action}
    (begun : v.account = some account) (run : account.run? actions = some account') :
    v.run? actions = some { v with account := some account' } := by
  induction actions generalizing v account with
  | nil =>
      obtain rfl : account = account' := Option.some.inj run
      rw [← begun]
      rfl
  | cons a rest ih =>
      obtain ⟨next, step, going⟩ := (Trace.run?_cons Account.step?).mp run
      refine (Trace.run?_cons step?).mpr ⟨{ v with account := some next }, ?_, ih rfl going⟩
      rw [step?, begun, Option.bind_some, step, Option.map_some]

theorem follows_readAnswer (manner : Manner) (limit : Option Nat)
    (prepared : Prepared Completion.Body) :
    (Path.ofPrepared manner.writeBack manner.replaySize prepared).Follows
      (readAnswer manner limit prepared).2.2 :=
  ((Path.follows_settle _).trans (Path.follows_readUpTo _ _)).trans (Path.follows_leave _)

/-- The paths of the gateway are among those of which an account can be given. -/
theorem account?_answer (manner : Manner) (prepared : Prepared Completion.Body) :
    let setup : Setup := ⟨manner.writeBack, manner.replaySize, Completion.Provider.streamCapacity,
      Path.frameCapacity⟩
    ∃ pump prepared',
      Path.ofPrepared manner.writeBack manner.replaySize prepared =
          setup.pathFrom pump prepared' ∧
        account? setup (fun body => some { body }) (.answer prepared) =
          some (.opened (setup.pathFrom pump prepared')) := by
  obtain ⟨request, origin⟩ := prepared
  cases origin with
  | kept answer => exact ⟨none, ⟨request, .kept answer⟩, rfl, rfl⟩
  | stream body => exact ⟨some { body }, ⟨request, .stream ()⟩, rfl, rfl⟩

/-- An exchange of a gateway that pumps the bodies of its provider is a visit, and does what the
account of the visit says. -/
theorem exchange_visits (b : Backend (StateM σ) Completion.Body) (allowMock : Bool)
    (page : Option NumbersPage) (manner : Manner) (limit : Option Nat) (r : Request) (s : σ) :
    let setup : Setup := ⟨manner.writeBack, manner.replaySize, Completion.Provider.streamCapacity,
      Path.frameCapacity⟩
    let after :=
      (exchange (gateway b.recorded allowMock page) b.recorded manner limit r).run (s, [])
    ∃ actions v,
      (opened setup (fun body => some { body }) b allowMock page r s).run? actions = some v ∧
        after.1.path = v.account.map (·.passage.path) ∧
        after.2.2 = v.before ++ v.records.map .record := by
  intro setup
  obtain ⟨⟨status, headers, content⟩, s', before, replied⟩ : ∃ reply s' before,
      ((gateway b.recorded allowMock page).respond r).run (s, []) = (reply, s', before) :=
    ⟨_, _, _, rfl⟩
  have start : opened setup (fun body => some { body }) b allowMock page r s =
      ⟨⟨status, headers, content⟩, before, account? setup (fun body => some { body }) content⟩ := by
    rw [opened, replied]
  rw [exchange, run_bind replied, start]
  cases content with
  | text text => exact ⟨[], _, rfl, rfl, (List.append_nil _).symm⟩
  | mock model => exact ⟨[], _, rfl, rfl, (List.append_nil _).symm⟩
  | answer prepared =>
      obtain ⟨pump, prepared', path, begun⟩ := account?_answer manner prepared
      have follows := follows_readAnswer manner limit prepared
      rw [path] at follows
      obtain ⟨actions, passage, run, reached⟩ :=
        follows { path := setup.pathFrom pump prepared' } rfl
      obtain ⟨account, run', rfl⟩ := Option.map_eq_some_iff.mp
        ((Account.run?_passage (.opened (setup.pathFrom pump prepared')) actions).symm.trans run)
      obtain ⟨last, settled⟩ := Account.run_records b run' s' before
      rw [reached] at settled
      refine ⟨actions, _, run_of_account begun run', congrArg some reached.symm, ?_⟩
      change
        ((settleRun b.recorded (readAnswer manner limit prepared).2.2.run).run (s', before)).2.2 = _
      rw [settled]
      rfl

end Visit

end Http

end AnswerGateway
