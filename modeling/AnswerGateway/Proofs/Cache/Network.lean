import AnswerGateway.Proofs.Cache.Dialog
import AnswerGateway.Proofs.Trace

/-!
Many callers of one cache service over a network that can lose every message and delay it for as
long as it likes, but delivers none twice. The cache keeps a log of the questions it answered, each
with the call that it was asked for. Whatever is lost, a call puts its question to the cache at most
once; a record that a caller is told was accepted has been accepted, and an answer that a caller
receives is the one that the cache gave to this call.
-/

namespace AnswerGateway.Cache

open Http

/-- A question that a cache was asked, and its answer. -/
structure Answered where
  ask : Ask
  answer : ask.Answer

/-- Whether a cache has answered a question at most once, and no other. -/
def AtMostOnce (ask : Ask) (answered : List Answered) : Prop :=
  answered = [] ∨ ∃ x, answered = [⟨ask, x⟩]

/-- A backend that stops at every question to its cache. A cache service opens no streams. -/
def Dialog.backend (id : String) : Backend Dialog Unit where
  lookup question := .asking (.lookup question) .done
  openStream _ := .done (.ok ())
  record r := .asking (.record r) .done
  freshId := .done id
  count _ := .done ()

namespace Inquiry

/-- How far a call has come. -/
inductive Place where
  | sent (r : Request)
  /-- The service has the request; once the dialog is done, the reply is on its way. -/
  | served (dialog : Dialog (Reply (Content Unit)))
  | gone

inductive Action where
  /-- The request reaches the service, which gives it an id. -/
  | arrive (id : String)
  /-- The cache answers the question that the service waits for. -/
  | answer (given : (ask : Ask) → ask.Answer)
  /-- The reply reaches the caller in pieces, whole or cut off. -/
  | receive (pieces : List (List UInt8)) (cut : Bool)
  /-- The request or the reply is lost, or the service gives the request up. -/
  | lose
  /-- The caller waits no longer; the request may still be on its way. -/
  | giveUp (message : String)

end Inquiry

/-- A call to a cache service. -/
structure Inquiry where
  ask : Ask
  place : Inquiry.Place
  /-- What the caller was told; nothing as long as it waits. -/
  told : Option ask.Answer := none

namespace Inquiry

/-- Whether a body comes in these pieces, or its beginning if it is cut off. -/
def arePieces (bytes : List UInt8) (pieces : List (List UInt8)) (cut : Bool) : Bool :=
  if cut then pieces.flatten.isPrefixOf bytes else pieces.flatten = bytes

variable (link : Link) (page : Option NumbersPage)

def opened (ask : Ask) : Inquiry :=
  match link.client.prepare (ask.post link.remote) with
  | .ok o => { ask, place := .sent (o.request link.added) }
  | .error f =>
    { ask, place := .gone, told := some (ask.receive (.error (link.client.sendFault f))) }

/-- The call after an action, and what the cache has answered; none if the action cannot happen
now. -/
def step? (c : Inquiry) : Action → Option (Inquiry × Option Answered)
  | .arrive id =>
    match c.place with
    | .sent r =>
      some ({ c with place := .served ((cacheService (Dialog.backend id) page).respond r) }, none)
    | _ => none
  | .answer given =>
    match c.place with
    | .served (.asking ask next) =>
      some ({ c with place := .served (next (given ask)) }, some ⟨ask, given ask⟩)
    | _ => none
  | .receive pieces cut =>
    match c.place with
    | .served (.done reply) =>
      if c.told.isNone && arePieces reply.content.bytes pieces cut then
        let delivery := { status := reply.status, pieces, cut }
        let told := c.ask.receive (link.client.document delivery)
        some ({ c with place := .gone, told := some told }, none)
      else none
    | _ => none
  | .lose => some ({ c with place := .gone }, none)
  | .giveUp message =>
    if c.told.isNone then
      let told := c.ask.receive (.error (link.client.fault message))
      some ({ c with told := some told }, none)
    else none

/-! What holds of a call. -/

/-- How far a call has come that asks a cache, by what the cache has answered for it. -/
inductive Placed (ask : Ask) : List Answered → Place → Prop where
  | sent {r : Request} (asks : Asks ask r) : Placed ask [] (.sent r)
  | asking {next : ask.Answer → Dialog (Reply (Content Unit))}
      (replies : ∀ x, ∃ id, next x = .done ((ask.reply x).withHeader "x-request-id" id)) :
      Placed ask [] (.served (.asking ask next))
  | replied (x : ask.Answer) (id : String) :
      Placed ask [⟨ask, x⟩] (.served (.done ((ask.reply x).withHeader "x-request-id" id)))
  | refused {reply : Reply (Content Unit)} (status : isSuccess reply.status = false) :
      Placed ask [] (.served (.done reply))
  | gone {answered : List Answered} (once : AtMostOnce ask answered) : Placed ask answered .gone

theorem Placed.once {ask : Ask} {answered : List Answered} {place : Place}
    (h : Placed ask answered place) : AtMostOnce ask answered := by
  cases h with
  | sent | asking | refused => exact .inl rfl
  | replied x => exact .inr ⟨x, rfl⟩
  | gone once => exact once

/-- The caller knows nothing that the cache has not answered: it is told that it failed, or what
was answered to its question. -/
structure Sound (link : Link) (answered : List Answered) (c : Inquiry) : Prop where
  placed : Placed c.ask answered c.place
  told : ∀ x, c.told = some x → c.ask.Failed x ∨
    (c.place = .gone ∧ ∃ y, answered = [⟨c.ask, y⟩] ∧ x = c.ask.told link.client y)

/-- The service puts a question within the limit to its cache, and replies with the answer. -/
theorem respond_of_fits {ask : Ask} {r : Request} (asks : Asks ask r)
    (fits : r.body.length ≤ bodyLimit) (page : Option NumbersPage) (id : String) :
    (cacheService (Dialog.backend id) page).respond r =
      .asking ask fun x => .done ((ask.reply x).withHeader "x-request-id" id) := by
  have put : ask.put (Dialog.backend id) = .asking ask .done := by cases ask <;> rfl
  rw [asks.respond_eq, asks.handle_of_fits _ fits, put]
  rfl

theorem placed_respond {ask : Ask} {r : Request} (asks : Asks ask r) (page : Option NumbersPage)
    (id : String) :
    Placed ask [] (.served ((cacheService (Dialog.backend id) page).respond r)) := by
  by_cases fits : r.body.length ≤ bodyLimit
  · rw [respond_of_fits asks fits]
    exact .asking fun x => ⟨id, rfl⟩
  · obtain ⟨reply, handled, status⟩ :=
      asks.handle_of_long (Dialog.backend id) (Nat.lt_of_not_le fits)
    rw [asks.respond_eq, handled]
    exact .refused status

theorem sound_opened {link : Link} (reaches : link.Reaches) (ask : Ask) :
    Sound link [] (opened link ask) := by
  obtain ⟨o, prepared, asks⟩ := reaches.prepare ask
  rw [opened, prepared]
  constructor
  · exact .sent asks
  · intro x told
    cases told

variable {link : Link} {page : Option NumbersPage} {c c' : Inquiry} {answered : List Answered}
  {new : Option Answered}

/-- A caller that was told something while its request is still under way was told that it
failed. -/
theorem Sound.failed (h : Sound link answered c) (under : c.place ≠ .gone) :
    ∀ x, c.told = some x → c.ask.Failed x := by
  intro x told
  rcases h.told x told with failed | ⟨gone, -⟩
  · exact failed
  · exact absurd gone under

/-- What a caller makes of the reply, or of a part of it. -/
theorem received {ask : Ask} {reply : Reply (Content Unit)} {pieces : List (List UInt8)}
    {cut : Bool}
    (placed : Placed ask answered (.served (.done reply)))
    (whole : cut = false → pieces.flatten = reply.content.bytes) (client : Client) :
    let told := ask.receive (client.document { status := reply.status, pieces, cut })
    ask.Failed told ∨ ∃ y, answered = [⟨ask, y⟩] ∧ told = ask.told client y := by
  intro told
  have failed (broken : isSuccess reply.status = false ∨ cut = true) : ask.Failed told := by
    obtain ⟨f, document⟩ := exists_document_error client
      (d := { status := reply.status, pieces, cut }) broken
    simp only [told, document]
    exact ask.failed_receive f
  cases placed with
  | refused status => exact .inl (failed (.inl status))
  | replied x id =>
      cases cut with
      | true => exact .inl (failed (.inr rfl))
      | false => exact .inr ⟨x, rfl, ask.receive_reply (σ := Unit) client x rfl rfl (whole rfl)⟩

theorem sound_step {action : Action} (h : Sound link answered c)
    (step : c.step? link page action = some (c', new)) :
    Sound link (answered ++ new.toList) c' := by
  obtain ⟨ask, place, told⟩ := c
  have placed : Placed ask answered place := h.placed
  cases action with
  | arrive id =>
      cases placed with
      | sent asks =>
          obtain ⟨rfl, rfl⟩ := Prod.mk.inj (Option.some.inj step)
          constructor
          · exact placed_respond asks page id
          · intro x told
            exact .inl (h.failed nofun x told)
      | _ => cases step
  | answer given =>
      cases placed with
      | asking replies =>
          obtain ⟨rfl, rfl⟩ := Prod.mk.inj (Option.some.inj step)
          obtain ⟨id, reply⟩ := replies (given ask)
          constructor
          · simp only [reply]
            exact .replied (given ask) id
          · intro x told
            exact .inl (h.failed nofun x told)
      | _ => cases step
  | receive pieces cut =>
      match place, placed with
      | .served (.done reply), placed =>
          simp only [step?] at step
          split at step
          · rename_i may
            obtain ⟨-, faithful⟩ := Bool.and_eq_true_iff.mp may
            obtain ⟨rfl, rfl⟩ := Prod.mk.inj (Option.some.inj step)
            have whole (ends : cut = false) : pieces.flatten = reply.content.bytes := by
              simpa [arePieces, ends] using faithful
            rw [Option.toList_none, List.append_nil]
            constructor
            · exact .gone placed.once
            · intro x told
              obtain rfl := Option.some.inj told
              rcases received placed whole link.client with failed | answer
              · exact .inl failed
              · exact .inr ⟨rfl, answer⟩
          · cases step
      | .sent _, _ | .served (.asking ..), _ | .gone, _ => cases step
  | lose =>
      obtain ⟨rfl, rfl⟩ := Prod.mk.inj (Option.some.inj step)
      rw [Option.toList_none, List.append_nil]
      constructor
      · exact .gone placed.once
      · intro x told
        rcases h.told x told with failed | ⟨-, answer⟩
        · exact .inl failed
        · exact .inr ⟨rfl, answer⟩
  | giveUp message =>
      simp only [step?] at step
      split at step
      · obtain ⟨rfl, rfl⟩ := Prod.mk.inj (Option.some.inj step)
        rw [Option.toList_none, List.append_nil]
        constructor
        · exact placed
        · intro x told
          obtain rfl := Option.some.inj told
          exact .inl (ask.failed_receive _)
      · cases step

end Inquiry

/-- The calls to a cache service, and the log of its cache. -/
structure Network where
  calls : List Inquiry := []
  /-- What the cache has answered, each with the number of the call that it was asked for. -/
  log : List (Nat × Answered) := []

/-- The answer of a cache that has kept nothing and takes everything. -/
def Ask.granted : (ask : Ask) → ask.Answer
  | .lookup _ => .ok .miss
  | .record _ => true

namespace Network

inductive Action where
  | call (ask : Ask)
  | move (call : Nat) (action : Inquiry.Action)

variable (link : Link) (page : Option NumbersPage)

def step? (n : Network) : Action → Option Network
  | .call ask => some { n with calls := n.calls ++ [Inquiry.opened link ask] }
  | .move call action => do
    let (c, answered) ← (← n.calls[call]?).step? link page action
    return { calls := n.calls.set call c, log := n.log ++ answered.toList.map (call, ·) }

def run? (n : Network) (actions : List Action) : Option Network :=
  Trace.run? (step? link page) n actions

/-- What the cache has answered for a call. -/
def answered (n : Network) (call : Nat) : List Answered :=
  n.log.filterMap fun entry => if entry.1 = call then some entry.2 else none

/-- Every call is sound, and the log speaks of no others. -/
structure Sound (n : Network) : Prop where
  calls : ∀ i (c : Inquiry), n.calls[i]? = some c → c.Sound link (n.answered i)
  logged : ∀ entry ∈ n.log, entry.1 < n.calls.length

variable {link : Link} {page : Option NumbersPage} {n n' : Network}

theorem answered_append (calls calls' : List Inquiry) (log : List (Nat × Answered)) (i call : Nat)
    (new : Option Answered) :
    answered { calls, log := log ++ new.toList.map (call, ·) } i =
      answered { calls := calls', log } i ++ (if call = i then new.toList else []) := by
  simp only [answered, List.filterMap_append]
  cases new with
  | none => simp
  | some a => by_cases same : call = i <;> simp [same]

theorem Sound.answered_new (h : n.Sound link) : n.answered n.calls.length = [] := by
  apply List.filterMap_eq_nil_iff.mpr
  intro entry member
  exact if_neg (Nat.ne_of_lt (h.logged entry member))

theorem sound_step {action : Action} (reaches : link.Reaches) (h : n.Sound link)
    (step : n.step? link page action = some n') : n'.Sound link := by
  cases action with
  | call ask =>
      obtain rfl := Option.some.inj step
      constructor
      · intro i c found
        rcases Nat.lt_trichotomy i n.calls.length with before | rfl | behind
        · exact h.calls i c (List.getElem?_append_left before ▸ found)
        · obtain rfl := Option.some.inj (List.getElem?_concat_length ▸ found)
          have none := h.answered_new
          show Inquiry.Sound link (n.answered n.calls.length) _
          rw [none]
          exact Inquiry.sound_opened reaches ask
        · have outside : (n.calls ++ [Inquiry.opened link ask]).length ≤ i := by
            rw [List.length_append]
            exact behind
          rw [List.getElem?_eq_none outside] at found
          cases found
      · intro entry member
        simpa using Nat.lt_add_one_of_lt (h.logged entry member)
  | move call action =>
      obtain ⟨c, found, more⟩ := Option.bind_eq_some_iff.mp step
      obtain ⟨⟨c', new⟩, moved, rest⟩ := Option.bind_eq_some_iff.mp more
      obtain rfl := Option.some.inj rest
      have inside : call < n.calls.length := (List.getElem?_eq_some_iff.mp found).1
      have next := Inquiry.sound_step (h.calls call c found) moved
      constructor
      · intro i d held
        rw [answered_append _ n.calls]
        by_cases same : call = i
        · subst same
          rw [List.getElem?_set_self inside] at held
          obtain rfl := Option.some.inj held
          rw [if_pos rfl]
          exact next
        · rw [List.getElem?_set_ne same] at held
          rw [if_neg same, List.append_nil]
          exact h.calls i d held
      · intro entry member
        rw [List.length_set]
        rcases List.mem_append.mp member with old | added
        · exact h.logged entry old
        · obtain ⟨a, -, rfl⟩ := List.mem_map.mp added
          exact inside

theorem sound_run (reaches : link.Reaches) {actions : List Action}
    (run : run? link page {} actions = some n) : n.Sound link := by
  refine Trace.induction (motive := fun _ n => n.Sound link) ?_ ?_ run
  · constructor
    · intro i c found
      cases found
    · intro entry member
      cases member
  · intro _ n action n' sound step
    exact sound_step reaches sound step

theorem step?_last (calls : List Inquiry) (log : List (Nat × Answered)) (c : Inquiry)
    (action : Inquiry.Action) :
    step? link page { calls := calls ++ [c], log } (.move calls.length action) =
      (c.step? link page action).map fun next =>
        { calls := calls ++ [next.1], log := log ++ next.2.toList.map (calls.length, ·) } := by
  simp only [step?, List.getElem?_concat_length, Option.bind_eq_bind, Option.bind_some]
  cases c.step? link page action with
  | none => rfl
  | some next => simp [List.set_append_right]

/-- A call of which nothing is lost is told what the cache has answered to it. -/
theorem run?_whole (reaches : link.Reaches) (page : Option NumbersPage) (n : Network) {ask : Ask}
    (fits : link.Carries ask) (id : String) (given : (ask : Ask) → ask.Answer)
    (pieces : List (List UInt8))
    (whole : pieces.flatten = (ask.reply (given ask) : Reply (Content Unit)).content.bytes) :
    n.run? link page [.call ask, .move n.calls.length (.arrive id),
        .move n.calls.length (.answer given), .move n.calls.length (.receive pieces false)] =
      some {
        calls := n.calls ++ [{
          ask, place := .gone, told := some (ask.told link.client (given ask)) }]
        log := n.log ++ [(n.calls.length, ⟨ask, given ask⟩)] } := by
  obtain ⟨o, prepared, asks⟩ := reaches.prepare ask
  have short := fits.length_body asks
  have opened : step? link page n (.call ask) = some {
      calls := n.calls ++ [{ ask, place := .sent (o.request link.added) }], log := n.log } := by
    rw [step?, Inquiry.opened, prepared]
  let reply : Reply (Content Unit) := (ask.reply (given ask)).withHeader "x-request-id" id
  have arrived : Inquiry.step? link page { ask, place := .sent (o.request link.added) }
      (.arrive id) = some ({ ask, place := .served (.asking ask fun x =>
        .done ((ask.reply x).withHeader "x-request-id" id)) }, none) := by
    simp only [Inquiry.step?, Inquiry.respond_of_fits asks short]
  have answered : Inquiry.step? link page { ask, place := .served (.asking ask fun x =>
      .done ((ask.reply x).withHeader "x-request-id" id)) } (.answer given) =
        some ({ ask, place := .served (.done reply) }, some ⟨ask, given ask⟩) := rfl
  have received : Inquiry.step? link page { ask, place := .served (.done reply) }
      (.receive pieces false) = some ({
        ask, place := .gone, told := some (ask.told link.client (given ask)) }, none) := by
    have told := ask.receive_reply (σ := Unit) link.client (given ask)
      (d := { status := reply.status, pieces }) rfl rfl whole
    have may : Inquiry.arePieces reply.content.bytes pieces false = true := decide_eq_true whole
    simp [Inquiry.step?, may, told]
  simp only [run?, Trace.run?, opened, step?_last, arrived, answered, received, Option.bind_some,
    Option.map_some, Option.toList_none, Option.toList_some, List.map_nil, List.map_cons,
    List.append_nil]

/-- What callers can rely on, whatever is lost. -/
structure Honest (n : Network) : Prop where
  own : ∀ entry ∈ n.log, ∃ c, n.calls[entry.1]? = some c ∧ entry.2.ask = c.ask
  once : ∀ (i : Nat) (c : Inquiry), n.calls[i]? = some c → AtMostOnce c.ask (n.answered i)
  accepted : ∀ (i : Nat) r place,
    n.calls[i]? = some { ask := .record r, place, told := some true } →
      n.answered i = [⟨.record r, true⟩]
  found : ∀ (i : Nat) q place result,
    n.calls[i]? = some { ask := .lookup q, place, told := some (Except.ok result) } →
      n.answered i = [⟨.lookup q, Except.ok result⟩]
  failed : ∀ (i : Nat) q place f,
    n.calls[i]? = some { ask := .lookup q, place, told := some (Except.error f) } →
      ∃ message, f = .cache message

theorem Sound.honest (h : n.Sound link) : n.Honest where
  own entry member := by
    have inside := h.logged entry member
    refine ⟨_, List.getElem?_eq_getElem inside, ?_⟩
    have own : entry.2 ∈ n.answered entry.1 :=
      List.mem_filterMap.mpr ⟨entry, member, if_pos rfl⟩
    have once := (h.calls entry.1 _ (List.getElem?_eq_getElem inside)).placed.once
    rcases once with none | ⟨x, one⟩
    · rw [none] at own
      cases own
    · rw [one] at own
      rw [List.mem_singleton.mp own]
  once i c call := (h.calls i c call).placed.once
  accepted i r place call := by
    rcases (h.calls i _ call).told true rfl with failed | ⟨-, y, answered, same⟩
    · cases failed
    · obtain rfl : true = y := same
      exact answered
  found i q place result call := by
    rcases (h.calls i _ call).told (.ok result) rfl with ⟨message, failed⟩ | ⟨-, y, answered, same⟩
    · cases failed
    · rw [answered, Ask.told_ok_iff.mp same.symm]
  failed i q place f call := by
    rcases (h.calls i _ call).told (.error f) rfl with ⟨message, failed⟩ | ⟨-, y, answered, same⟩
    · exact ⟨message, Except.error.inj failed⟩
    · cases y with
      | ok found => cases same
      | error f => exact ⟨_, Except.error.inj same⟩

/-- A remote cache is the cache behind the service. As long as nothing is lost, whatever is asked of
it in whichever order is put to that cache once and in the same words; what a lookup finds is told
as it was found, a lookup that failed is told as a failure and nothing else is, and a record counts
as accepted if it was. If messages are lost, callers are still told nothing that did not happen. -/
theorem run_refines {link : Link} (reaches : link.Reaches) (page : Option NumbersPage) :
    (∀ (m : Type → Type) [Monad m] [LawfulMonad m] (σ α : Type) (b : Backend m σ)
      (cut : List UInt8 → List (List UInt8)) (p : Dialog α),
      (∀ bytes, (cut bytes).flatten = bytes) → p.All link.Carries →
        p.run (link.call cut (cacheService b page).respond) = p.run (link.through b)) ∧
    (∀ q answer, (∀ found,
        (Ask.lookup q).told link.client answer = .ok found ↔ answer = .ok found) ∧
      ((∃ message, (Ask.lookup q).told link.client answer = .error (.cache message)) ↔
        ∃ f, answer = .error f)) ∧
    (∀ r accepted, (Ask.record r).told link.client accepted = accepted) ∧
    ∀ actions n, run? link page {} actions = some n → n.Honest := by
  refine ⟨?_, ?_, ?_, ?_⟩
  · intro m _ _ σ α b cut p whole fits
    apply Dialog.run_congr _ fits
    intro ask carries
    exact Link.call_eq_through b page reaches whole carries
  · intro q answer
    constructor
    · intro found
      exact Ask.told_ok_iff
    · exact Ask.failed_told_iff
  · intro r accepted
    rfl
  · intro actions n run
    exact (sound_run reaches run).honest

/-- A cache that keeps everything, at an address of this machine. -/
theorem run_refines_small :
    let link : Link := {
      client := { label := "cache" }, remote := ⟨"http://localhost:50052"⟩, anonymous := by simp }
    let question : LookupRequest := { prompt := "q", model := "m" }
    let offered : Record := { prompt := "q", response := "a", model := "m", tokenUsage := 3 }
    let kept : Backend (StateM (List Record)) Unit := {
      lookup := fun q => do
        let found := (← get).find? (·.prompt = q.prompt)
        return .ok (found.elim .miss (.found ·.response))
      openStream := fun _ => return .ok ()
      record := fun r => do
        modify (· ++ [r])
        return true
      freshId := return "1"
      count := fun _ => return () }
    let asks : Dialog (Bool × Except Fault LookupResult) :=
      .asking (.record offered) fun accepted =>
        .asking (.lookup question) fun answer => .done (accepted, answer)
    link.Reaches ∧
    (asks.run (link.call (fun bytes => [bytes]) (cacheService kept none).respond)).run [] =
      ((true, .ok (.found "a")), [offered]) ∧
    ∃ actions n, run? link none {} actions = some n ∧
      n.calls[0]? = some { ask := .record offered, place := .gone, told := some true } ∧
      n.answered 0 = [⟨.record offered, true⟩] := by
  intro link question offered kept asks
  have lookupUrl : Net.Url.parse? "http://localhost:50052/v1/cache/lookup" = some {
      scheme := "http", host := some (.name "localhost"), port := some 50052
      path := .segments ["v1", "cache", "lookup"] } := by
    decide +kernel
  have recordUrl : Net.Url.parse? "http://localhost:50052/v1/cache/record" = some {
      scheme := "http", host := some (.name "localhost"), port := some 50052
      path := .segments ["v1", "cache", "record"] } := by
    decide +kernel
  have reaches : link.Reaches := by
    intro ask
    have base : Text.trimEnd '/' link.remote.baseUrl = "http://localhost:50052" := by decide
    cases ask with
    | lookup q =>
        have url := Ask.post_url link.remote (.lookup q)
        rw [base] at url
        exact ⟨_, by rw [url]; exact lookupUrl, rfl, .inl rfl, rfl⟩
    | record r =>
        have url := Ask.post_url link.remote (.record r)
        rw [base] at url
        exact ⟨_, by rw [url]; exact recordUrl, rfl, .inl rfl, rfl⟩
  have fits : asks.All link.Carries := by
    refine ⟨?_, fun _ => ⟨?_, fun _ => trivial⟩⟩
    · show (Text.utf8 (Ask.post link.remote (.record offered)).body.print).length ≤ bodyLimit
      decide +kernel
    · show (Text.utf8 (Ask.post link.remote (.lookup question)).body.print).length ≤ bodyLimit
      decide +kernel
  obtain ⟨refined, -, -, honest⟩ := run_refines reaches none
  refine ⟨reaches, ?_, ?_⟩
  · rw [refined _ Unit _ kept (fun bytes => [bytes]) asks (fun bytes => by simp) fits]
    rfl
  · let bytes := ((Ask.record offered).reply true : Reply (Content Unit)).content.bytes
    have run := run?_whole reaches none {} fits.1 "1" Ask.granted [bytes] (List.append_nil bytes)
    exact ⟨_, _, run, rfl, (honest _ _ run).accepted 0 offered .gone rfl⟩

end Network

end AnswerGateway.Cache
