import AnswerGateway.Proofs.Cache.Site
import AnswerGateway.Proofs.Relay.Asking
import AnswerGateway.Proofs.Relay.Passage

/-!
A gateway with a cache of its own, and all its chats at once. Requests come at any time; the
preparation of each stops at every question; prepared answers are forwarded or replayed step by
step; what is to be kept goes to the cache by a task of its own; and the workers of the cache do
what they do. Any order of all this is a run. What the embedder, the provider and the clients do is
part of the actions.
-/

namespace AnswerGateway

open Cache Relay

structure Setup where
  policy : WriteBack
  /-- The size of the pieces in which a kept answer is replayed. -/
  replaySize : Nat
  /-- How many chunks may wait between a provider and a run. -/
  chunkRoom : Nat
  /-- How many frames may wait between a run and a client. -/
  frameRoom : Nat

/-- The path of a prepared answer. The chunks of a stream are fed from outside. -/
def Setup.path (setup : Setup) (prepared : Prepared Unit) : Path :=
  { chunks := .withCapacity setup.chunkRoom
    run := match prepared.origin with
      | .kept answer => .ofKept prepared.request setup.policy answer setup.replaySize
      | .stream () => .ofStream prepared.request setup.policy
    frames := .withCapacity setup.frameRoom }

inductive Stage where
  | preparing (asking : Asking (Except Fault (Prepared Unit)))
  | refused (f : Fault)
  | answering (prepared : Prepared Unit) (passage : Passage)

def Setup.stage (setup : Setup) : Asking (Except Fault (Prepared Unit)) → Stage
  | .done (.ok prepared) => .answering prepared { path := setup.path prepared }
  | .done (.error f) => .refused f
  | asking => .preparing asking

structure Chat where
  request : RelayRequest
  stage : Stage

/-- The answer of the cache that a chat is given, once its preparation has been resolved to it. -/
def Chat.kept? (chat : Chat) : Option String :=
  match chat.stage with
  | .answering { origin := .kept answer, .. } _ => some answer
  | _ => none

structure Gateway where
  site : Site Store.Memory
  chats : List Chat := []
  /-- The records that are on their way to the cache. -/
  tasks : List Record := []

namespace Gateway

inductive Action where
  | arrive (request : RelayRequest)
  /-- The cache answers the lookup of a chat, the embedder having made this of the question. -/
  | lookUp (chat : Nat) (vector : Except Fault Vector)
  /-- The provider opens a stream for a chat, or refuses. -/
  | openStream (chat : Nat) (answer : Except Fault Unit)
  | relay (chat : Nat) (action : Passage.Action)
  | submit (task : Nat)
  | cache (action : Cache.Action)

def opened (engine : Engine) (store : Store.Memory) : Gateway := { site := .opened engine store }

def setStage (g : Gateway) (index : Nat) (chat : Chat) (stage : Stage) : Gateway :=
  { g with chats := g.chats.set index { chat with stage } }

/-- The record that a run submits by its end. -/
def submitted (before after : Run) : List Record :=
  if before.outcome.isNone then after.submission?.toList else []

def lookUp? (setup : Setup) (g : Gateway) (index : Nat) (vector : Except Fault Vector) :
    Option Gateway :=
  match g.chats[index]? with
  | some chat =>
    match chat.stage with
    | .preparing (.lookup question next) =>
      let (answer, site) := g.site.lookup .memory question vector
      some ({ g with site }.setStage index chat (setup.stage (next answer)))
    | _ => none
  | none => none

def openStream? (setup : Setup) (g : Gateway) (index : Nat) (answer : Except Fault Unit) :
    Option Gateway :=
  match g.chats[index]? with
  | some chat =>
    match chat.stage with
    | .preparing (.openStream _ next) => some (g.setStage index chat (setup.stage (next answer)))
    | _ => none
  | none => none

def relay? (g : Gateway) (index : Nat) (action : Passage.Action) : Option Gateway :=
  match g.chats[index]? with
  | some chat =>
    match chat.stage with
    | .answering prepared passage =>
      (passage.step? action).map fun after =>
        { g with tasks := g.tasks ++ submitted passage.path.run after.path.run }.setStage index chat
          (.answering prepared after)
    | _ => none
  | none => none

def submit? (g : Gateway) (task : Nat) : Option Gateway :=
  g.tasks[task]?.map fun r =>
    { g with tasks := g.tasks.eraseIdx task, site := (g.site.offer r).2 }

/-- The cache gets its records from the tasks alone. -/
def cache? (g : Gateway) (action : Cache.Action) : Option Gateway :=
  match action with
  | .offer _ => none
  | action => (g.site.step? .memory action).map fun site => { g with site }

/-- The gateway after an action; none if the action cannot happen now. -/
def step? (setup : Setup) (g : Gateway) : Action → Option Gateway
  | .arrive request =>
    some { g with chats := g.chats ++ [⟨request, setup.stage (preparing request)⟩] }
  | .lookUp index vector => g.lookUp? setup index vector
  | .openStream index answer => g.openStream? setup index answer
  | .relay index action => g.relay? index action
  | .submit task => g.submit? task
  | .cache action => g.cache? action

def run? (setup : Setup) (g : Gateway) (actions : List Action) : Option Gateway :=
  Trace.run? (step? setup) g actions

/-- A step: what happens and what the gateway is then. -/
inductive Step (setup : Setup) (g : Gateway) : Action → Gateway → Prop where
  | arrived {request : RelayRequest} :
      Step setup g (.arrive request)
        { g with chats := g.chats ++ [⟨request, setup.stage (preparing request)⟩] }
  | lookedUp {index : Nat} {chat : Chat} {vector : Except Fault Vector} {question : LookupRequest}
      {next : Except Fault LookupResult → Asking (Except Fault (Prepared Unit))}
      (stands : g.chats[index]? = some chat)
      (asks : chat.stage = .preparing (.lookup question next)) :
      Step setup g (.lookUp index vector)
        (setStage { g with site := (g.site.lookup .memory question vector).2 } index chat
          (setup.stage (next (g.site.lookup .memory question vector).1)))
  | streamed {index : Nat} {chat : Chat} {answer : Except Fault Unit} {request : CompletionRequest}
      {next : Except Fault Unit → Asking (Except Fault (Prepared Unit))}
      (stands : g.chats[index]? = some chat)
      (asks : chat.stage = .preparing (.openStream request next)) :
      Step setup g (.openStream index answer)
        (g.setStage index chat (setup.stage (next answer)))
  | relayed {index : Nat} {chat : Chat} {action : Passage.Action} {prepared : Prepared Unit}
      {passage after : Passage} (stands : g.chats[index]? = some chat)
      (answers : chat.stage = .answering prepared passage)
      (moves : passage.step? action = some after) :
      Step setup g (.relay index action)
        (setStage { g with tasks := g.tasks ++ submitted passage.path.run after.path.run } index
          chat (.answering prepared after))
  | submitted {task : Nat} {r : Record} (waits : g.tasks[task]? = some r) :
      Step setup g (.submit task)
        { g with tasks := g.tasks.eraseIdx task, site := (g.site.offer r).2 }
  | cached {action : Cache.Action} {site : Site Store.Memory}
      (inside : ∀ r, action ≠ .offer r) (moves : g.site.step? .memory action = some site) :
      Step setup g (.cache action) { g with site }

theorem step_of_step? {setup : Setup} {g g' : Gateway} {a : Action}
    (h : g.step? setup a = some g') : Step setup g a g' := by
  cases a with
  | arrive request =>
      cases h
      exact .arrived
  | lookUp index vector =>
      simp only [step?, lookUp?] at h
      split at h
      · rename_i chat stands
        split at h
        · rename_i question next asks
          cases h
          exact .lookedUp stands asks
        · cases h
      · cases h
  | openStream index answer =>
      simp only [step?, openStream?] at h
      split at h
      · rename_i chat stands
        split at h
        · rename_i request next asks
          cases h
          exact .streamed stands asks
        · cases h
      · cases h
  | relay index action =>
      simp only [step?, relay?] at h
      split at h
      · rename_i chat stands
        split at h
        · rename_i prepared passage answers
          obtain ⟨after, moves, rfl⟩ := Option.map_eq_some_iff.mp h
          exact .relayed stands answers moves
        · cases h
      · cases h
  | submit task =>
      obtain ⟨r, waits, rfl⟩ := Option.map_eq_some_iff.mp h
      exact .submitted waits
  | cache action =>
      simp only [step?, cache?] at h
      split at h
      · cases h
      · rename_i inside
        obtain ⟨site, moves, rfl⟩ := Option.map_eq_some_iff.mp h
        exact .cached inside moves

theorem run_induction {setup : Setup} {start : Gateway} {motive : Gateway → Prop}
    (initial : motive start)
    (kept : ∀ g a g', motive g → Step setup g a g' → motive g')
    {actions : List Action} {g : Gateway} (h : start.run? setup actions = some g) : motive g :=
  Trace.induction (motive := fun _ g => motive g) initial
    (fun _ g a g' holds step => kept g a g' holds (step_of_step? step)) h

end Gateway

end AnswerGateway
