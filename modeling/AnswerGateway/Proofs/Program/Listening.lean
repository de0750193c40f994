import AnswerGateway.Program.Run
import AnswerGateway.Proofs.Cache.Start

/-!
What can still keep a program from listening when its settings are valid, its store is in memory and
its keys are set. Three things can, and none of them is looked at by the check of the settings: a
queue of more room than any queue can have, a page of numbers that cannot be mounted beside the
endpoints, and a host that is no address. Without them both commands get as far as to listen.
-/

namespace AnswerGateway.Program

section Telling

variable {α β : Type} {x : Telling α} {f : α → Telling β} {log log' : List LogEvent}

theorem run_bind (x : Telling α) (f : α → Telling β) (log : List LogEvent) :
    (x >>= f).run log = match x.run log with
      | (.ok a, log') => (f a).run log'
      | (.error t, log') => (.error t, log') := by
  rw [ExceptT.run_bind]
  change StateT.run (x.run >>= _) log = _
  rw [StateT.run_bind]
  change (x.run log >>= _) = _
  cases x.run log with
  | mk result log' => cases result <;> rfl

theorem run_bind_ok {a : α} (h : x.run log = (.ok a, log')) :
    (x >>= f).run log = (f a).run log' := by
  rw [run_bind, h]

theorem run_bind_error {t : Trouble} (h : x.run log = (.error t, log')) :
    (x >>= f).run log = (.error t, log') := by
  rw [run_bind, h]

/-- What goes on without trouble fails only where the beginning does. -/
theorem run_bind_ite {p : Prop} [Decidable p] {t : Trouble} {a : α} {b : β}
    (h : x.run log = (if p then .error t else .ok a, log'))
    (goesOn : (f a).run log' = (.ok b, log')) :
    (x >>= f).run log = (if p then .error t else .ok b, log') := by
  rw [run_bind, h]
  by_cases holds : p
  · rw [if_pos holds, if_pos holds]
  · rw [if_neg holds, if_neg holds]
    exact goesOn

theorem run_tell_bind (e : LogEvent) (f : Unit → Telling β) (log : List LogEvent) :
    (tell e >>= f).run log = (f ()).run (log ++ [e]) := rfl

theorem run_throw_bind (t : Trouble) (f : α → Telling β) (log : List LogEvent) :
    ((throw t : Telling α) >>= f).run log = (.error t, log) := rfl

theorem orFault_ok (a : α) : orFault (.ok a) = pure a := rfl

end Telling

/-- What a run needs besides valid settings: a store in memory, and the keys of its providers. -/
structure Equipped (env : Environment) (c : Config) : Prop where
  memory : c.vectorStore.kind = .memory
  embedding : ∃ key, Config.secret env c.embedding.apiKeyEnv = .ok key
  completion : ∃ key, Config.secret env c.completion.apiKeyEnv = .ok key

variable {env : Environment} {c : Config} (answering : Answering) (log : List LogEvent)

theorem valid_parts (valid : c.validate = .ok ()) :
    c.cache.validate = .ok () ∧ c.embedding.dimensions = c.cache.dimensions := by
  unfold Config.validate at valid
  cases cache : c.cache.validate with
  | error f =>
      rw [cache] at valid
      cases valid
  | ok =>
      rw [cache] at valid
      cases observability : c.observability.validate with
      | error f =>
          rw [observability] at valid
          cases valid
      | ok =>
          rw [observability] at valid
          by_cases same : c.embedding.dimensions = c.cache.dimensions
          · exact ⟨rfl, same⟩
          · simp only [ne_eq, same, not_false_eq_true, if_true] at valid
            cases valid

theorem run_ensure (spec : Store.CollectionSpec) :
    (Store.Ensure.run (AnyStore.calls answering) spec).run (.memory {}) =
      (.ok true, .memory { collections := [⟨spec, []⟩], createCalls := 1 }) := rfl

theorem run_buildStore {s : Config.VectorStore} (memory : s.kind = .memory) :
    (buildStore env s).run log = (.ok (.memory {}),
      log ++ [⟨.info, targetOf [], "Using in-memory vector store", []⟩]) := by
  unfold buildStore
  rw [memory]
  rfl

theorem run_buildEngine (valid : c.validate = .ok ()) (equipped : Equipped env c) :
    ∃ told, (buildEngine answering env c).run log =
      (if queueLimit < c.cache.queueCapacity.toNat then .error .broken
        else .ok (Cache.Engine.idle c.cache), told) := by
  obtain ⟨cacheValid, same⟩ := valid_parts valid
  obtain ⟨key, found⟩ := equipped.embedding
  have embedding : buildEmbedding env c.embedding =
      .ok ⟨key, c.embedding.model, c.cache.dimensions.toNat, c.embedding.baseUrl⟩ := by
    rw [buildEmbedding, found, same]
    rfl
  have started := Cache.Engine.start_of_run cacheValid
    (run_ensure answering (Cache.Engine.collectionSpec c.cache))
  unfold buildEngine
  rw [run_bind_ok (run_buildStore log equipped.memory), embedding, orFault_ok, pure_bind]
  simp only [started, orFault_ok, pure_bind, run_tell_bind]
  split
  · exact ⟨_, run_throw_bind _ _ _⟩
  · exact ⟨_, rfl⟩

namespace Command

variable (command : Command)

/-- Whether a command works with an engine of its own. -/
def startsEngine (c : Config) : Bool :=
  match command with
  | .serve => c.cache.mode == .inside
  | .cache => true

def hasHugeQueue (c : Config) : Bool :=
  command.startsEngine c && queueLimit < c.cache.queueCapacity.toNat

def hasStrayPage (c : Config) : Bool :=
  let page := c.observability.metrics
  page.enabled && !Http.NumbersPage.mountable command.task.endpoints page.path

/-- The first thing that keeps a command from listening, if anything does. -/
def obstacle? (c : Config) : Option Trouble :=
  if command.hasHugeQueue c then some .broken
  else if command.hasStrayPage c then some .broken
  else if (Net.Ip.parse? (command.task.listener c).host).isNone then some .badHost
  else none

/-- Whether a command gets as far as to listen, so that it says where. -/
def Listens (answering : Answering) (env : Environment) (c : Config) : Prop :=
  ∃ cache ip told, Net.Ip.parse? (command.task.listener c).host = some ip ∧
    (prepare command.task answering env c).run [] =
      (.ok cache, told ++ [command.task.started (ip.withPort (command.task.listener c).port) c])

theorem run_buildCache (valid : c.validate = .ok ()) (equipped : Equipped env c) :
    ∃ cache told, (buildCache answering env c).run log =
      (if serve.hasHugeQueue c then .error .broken else .ok cache, told) := by
  unfold buildCache hasHugeQueue startsEngine
  cases c.cache.mode with
  | inside =>
      obtain ⟨told, built⟩ := run_buildEngine answering log valid equipped
      refine ⟨.inside (Cache.Engine.idle c.cache), told, ?_⟩
      simp only [beq_self_eq_true, Bool.true_and, decide_eq_true_eq]
      exact run_bind_ite built rfl
  | remote => exact ⟨_, _, rfl⟩

theorem run_cache (valid : c.validate = .ok ()) (equipped : Equipped env c) :
    ∃ cache told, (command.task.cache answering env c).run log =
      (if command.hasHugeQueue c then .error .broken else .ok cache, told) := by
  cases command with
  | serve =>
      obtain ⟨cache, told, built⟩ := run_buildCache answering log valid equipped
      obtain ⟨key, found⟩ := equipped.completion
      have completion : buildCompletion env c.completion = .ok ⟨key, c.completion.baseUrl⟩ := by
        rw [buildCompletion, found]
        rfl
      simp only [task, completion]
      exact ⟨cache, told, run_bind_ite built rfl⟩
  | cache =>
      obtain ⟨told, built⟩ := run_buildEngine answering log valid equipped
      simp only [task, hasHugeQueue, startsEngine, Bool.true_and, decide_eq_true_eq,
        map_eq_pure_bind]
      exact ⟨_, told, run_bind_ite built rfl⟩

/-- What becomes of the preparations: they end at the first obstacle, and without one at the news
where the command listens. -/
theorem run_prepare (valid : c.validate = .ok ()) (equipped : Equipped env c) :
    (∀ t, command.obstacle? c = some t →
      ∃ told, (prepare command.task answering env c).run log = (.error t, told)) ∧
    (command.obstacle? c = none → ∃ cache ip told,
      Net.Ip.parse? (command.task.listener c).host = some ip ∧
        (prepare command.task answering env c).run log =
          (.ok cache,
            told ++ [command.task.started (ip.withPort (command.task.listener c).port) c])) := by
  obtain ⟨cache, told, built⟩ :=
    command.run_cache answering (log ++ [tracingEvent c]) valid equipped
  have page : (c.observability.metrics.enabled && !Http.NumbersPage.mountable
      command.task.endpoints c.observability.metrics.path) = command.hasStrayPage c := rfl
  unfold prepare obstacle?
  simp only [run_tell_bind, valid, orFault_ok, pure_bind]
  cases huge : command.hasHugeQueue c with
  | true =>
      rw [huge] at built
      rw [run_bind_error built]
      refine ⟨?_, fun free => (nomatch free)⟩
      rintro t ⟨⟩
      exact ⟨told, rfl⟩
  | false =>
      rw [huge] at built
      rw [run_bind_ok built]
      simp only [run_tell_bind, page]
      cases command.hasStrayPage c with
      | true =>
          refine ⟨?_, fun free => (nomatch free)⟩
          rintro t ⟨⟩
          exact ⟨_, rfl⟩
      | false =>
          cases parsed : Net.Ip.parse? (command.task.listener c).host with
          | none =>
              refine ⟨?_, fun free => (nomatch free)⟩
              rintro t ⟨⟩
              exact ⟨_, rfl⟩
          | some ip =>
              refine ⟨fun t first => (nomatch first), ?_⟩
              intro _
              exact ⟨cache, ip, _, rfl, rfl⟩

theorem listens_iff_free (valid : c.validate = .ok ()) (equipped : Equipped env c) :
    command.Listens answering env c ↔ command.obstacle? c = none := by
  obtain ⟨obstructed, free⟩ := command.run_prepare answering [] valid equipped
  constructor
  · rintro ⟨cache, ip, told, -, listens⟩
    cases first : command.obstacle? c with
    | none => rfl
    | some t =>
        obtain ⟨told', fails⟩ := obstructed t first
        cases (Prod.mk.inj (fails.symm.trans listens)).1
  · exact free

/-- A page can be mounted beside the endpoints of either command if its pattern means something and
is not one of the two places that both of them tell something at. -/
theorem mountable_iff (path : String) :
    Http.NumbersPage.mountable command.task.endpoints path = true ↔
      (Http.Route.parse? path).isSome = true ∧ path ≠ "/health" ∧ path ≠ "/live" := by
  have asked : (command.task.endpoints.any fun e => e.path == path && e.isQuestion) = true ↔
      path = "/health" ∨ path = "/live" := by
    cases command <;>
      simp only [task, List.any_cons, List.any_nil, Http.Endpoint.path, Http.Endpoint.isQuestion,
        Bool.and_true, Bool.and_false, Bool.or_false, Bool.or_eq_true, beq_iff_eq,
        @eq_comm String path]
  rw [Http.NumbersPage.mountable, Bool.and_eq_true, Bool.not_eq_true', Bool.eq_false_iff, ne_eq,
    asked, not_or]

theorem hasHugeQueue_eq_false_iff :
    command.hasHugeQueue c = false ↔
      (command.startsEngine c = true → c.cache.queueCapacity.toNat ≤ queueLimit) := by
  rw [hasHugeQueue]
  cases command.startsEngine c <;> simp

theorem hasStrayPage_eq_false_iff :
    command.hasStrayPage c = false ↔
      (c.observability.metrics.enabled = true →
        (Http.Route.parse? c.observability.metrics.path).isSome = true ∧
          c.observability.metrics.path ≠ "/health" ∧ c.observability.metrics.path ≠ "/live") := by
  rw [hasStrayPage, ← mountable_iff command]
  cases c.observability.metrics.enabled <;> simp

theorem obstacle?_eq_none_iff :
    command.obstacle? c = none ↔
      command.hasHugeQueue c = false ∧ command.hasStrayPage c = false ∧
        (Net.Ip.parse? (command.task.listener c).host).isSome = true := by
  rw [obstacle?]
  cases command.hasHugeQueue c with
  | true => simp
  | false =>
      cases command.hasStrayPage c with
      | true => simp
      | false => cases Net.Ip.parse? (command.task.listener c).host <;> simp

end Command

/-- Settings with which a program can listen: hosts that are addresses, a queue that there can be,
and a page of numbers that has a place. -/
structure Startable (c : Config) : Prop where
  server : (Net.Ip.parse? c.server.host).isSome = true
  cacheService : (Net.Ip.parse? c.cacheService.host).isSome = true
  queue : c.cache.queueCapacity.toNat ≤ queueLimit
  page : c.observability.metrics.enabled = true →
    (Http.Route.parse? c.observability.metrics.path).isSome = true ∧
      c.observability.metrics.path ≠ "/health" ∧ c.observability.metrics.path ≠ "/live"

/-- Nothing keeps either command from listening if the settings are such. The cache service always
has an engine of its own, so it is the one that a huge queue always stops. -/
theorem startable_iff :
    (∀ command : Command, command.obstacle? c = none) ↔ Startable c := by
  simp only [Command.obstacle?_eq_none_iff, Command.hasHugeQueue_eq_false_iff,
    Command.hasStrayPage_eq_false_iff]
  constructor
  · intro free
    obtain ⟨-, page, server⟩ := free .serve
    obtain ⟨queue, -, cacheService⟩ := free .cache
    exact ⟨server, cacheService, queue rfl, page⟩
  · intro startable command
    refine ⟨fun _ => startable.queue, startable.page, ?_⟩
    cases command with
    | serve => exact startable.server
    | cache => exact startable.cacheService

/-- The variables of a run, with those of its file. -/
def Surroundings.variables (s : Surroundings) : Environment :=
  match s.files.lookup ".env" with
  | some text => Variables.addFile s.env text
  | none => s.env

theorem Command.exitCode_run_of_result {command : Command} {s : Surroundings} {signal : Signal}
    (loaded : Config.load s.files s.variables = .ok c) {result : Except Trouble Unit}
    {told : List LogEvent}
    (ran : (prepare command.task s.answering s.variables c >>=
      serveUntil signal command.task).run [] = (result, told)) :
    (command.run s signal).exitCode =
      match result with
      | .ok () => 0
      | .error t => t.outcome.exitCode := by
  unfold Surroundings.variables at loaded ran
  cases lookup : s.files.lookup ".env" with
  | none | some text =>
      simp only [lookup] at loaded ran
      simp only [Command.run, lookup, loaded, ran]
      cases result <;> rfl

/-- How a run ends is decided by its first obstacle. -/
theorem Command.exitCode_run (command : Command) {s : Surroundings}
    (loaded : Config.load s.files s.variables = .ok c) (valid : c.validate = .ok ())
    (equipped : Equipped s.variables c) (signal : Signal) :
    (command.run s signal).exitCode =
      ((command.obstacle? c).map fun t => t.outcome.exitCode).getD 0 := by
  obtain ⟨obstructed, free⟩ := command.run_prepare s.answering [] valid equipped
  cases first : command.obstacle? c with
  | some t =>
      obtain ⟨told, fails⟩ := obstructed t first
      exact exitCode_run_of_result loaded (run_bind_error fails)
  | none =>
      obtain ⟨cache, ip, told, -, listens⟩ := free first
      exact exitCode_run_of_result loaded (run_bind_ok listens)

/-- With valid settings, a store in memory and the keys at hand, both commands listen exactly if the
settings are startable, which the check of the settings does not see to. Each command on its own
listens, and its run ends well, exactly if it meets no obstacle, and it fails at the first one. -/
theorem listens_iff_startable (s : Surroundings) {c : Config} (valid : c.validate = .ok ())
    (equipped : Equipped s.variables c) :
    ((∀ command : Command, command.Listens s.answering s.variables c) ↔ Startable c) ∧
    ∀ command : Command,
      (command.Listens s.answering s.variables c ↔ command.obstacle? c = none) ∧
      (∀ t, command.obstacle? c = some t →
        ∃ told, (prepare command.task s.answering s.variables c).run [] = (.error t, told)) ∧
      ∀ signal, Config.load s.files s.variables = .ok c →
        (command.run s signal).exitCode =
          ((command.obstacle? c).map fun t => t.outcome.exitCode).getD 0 := by
  refine ⟨?_, fun command => ⟨?_, ?_, ?_⟩⟩
  · rw [← startable_iff]
    exact forall_congr' fun command => command.listens_iff_free s.answering valid equipped
  · exact command.listens_iff_free s.answering valid equipped
  · exact (command.run_prepare s.answering [] valid equipped).1
  · intro signal loaded
    exact command.exitCode_run loaded valid equipped signal

/-- A store in memory and no other setting. -/
def inMemory : Config := { vectorStore := { kind := .memory } }

/-- Surroundings in which the one key that is asked for is set. -/
def keyed : Surroundings := { env := [("OPENAI_API_KEY", "sk")] }

theorem equipped_keyed {c : Config} (memory : c.vectorStore.kind = .memory)
    (embedding : c.embedding.apiKeyEnv = "OPENAI_API_KEY")
    (completion : c.completion.apiKeyEnv = "OPENAI_API_KEY") : Equipped keyed.variables c := by
  have found : Config.secret keyed.variables "OPENAI_API_KEY" = .ok "sk" := rfl
  refine ⟨memory, ⟨"sk", ?_⟩, "sk", ?_⟩
  · rw [embedding, found]
  · rw [completion, found]

/-- With a store in memory and no other setting, both commands listen. -/
theorem listens_in_memory :
    Command.serve.Listens keyed.answering keyed.variables inMemory ∧
      Command.cache.Listens keyed.answering keyed.variables inMemory := by
  have valid : inMemory.validate = .ok () := rfl
  have equipped : Equipped keyed.variables inMemory := equipped_keyed rfl rfl rfl
  have startable : Startable inMemory :=
    ⟨rfl, rfl, by decide, fun _ => ⟨rfl, by decide, by decide⟩⟩
  have listens := (listens_iff_startable keyed valid equipped).1.mpr startable
  exact ⟨listens .serve, listens .cache⟩

/-- Settings that are valid, and with which a program does not start: a host that is a name, a page
of numbers in the place of another one, and a queue of more room than any queue can have. -/
theorem valid_not_startable :
    let named : Config := { inMemory with server := { host := "localhost", port := 8080 } }
    let placed : Config :=
      { inMemory with observability := { metrics := { path := "/health" } } }
    let roomy : Config := { inMemory with cache := { queueCapacity := 0x2000000000000000 } }
    (named.validate = .ok () ∧ placed.validate = .ok () ∧ roomy.validate = .ok ()) ∧
    (Equipped keyed.variables named ∧ Equipped keyed.variables placed ∧
      Equipped keyed.variables roomy) ∧
    (∃ told, (prepare Command.serve.task keyed.answering keyed.variables named).run [] =
      (.error .badHost, told)) ∧
    (∃ told, (prepare Command.serve.task keyed.answering keyed.variables placed).run [] =
      (.error .broken, told)) ∧
    ∃ told, (prepare Command.serve.task keyed.answering keyed.variables roomy).run [] =
      (.error .broken, told) := by
  have fails {c : Config} {t : Trouble} (valid : c.validate = .ok ())
      (equipped : Equipped keyed.variables c) (first : Command.serve.obstacle? c = some t) :
      ∃ told, (prepare Command.serve.task keyed.answering keyed.variables c).run [] =
        (.error t, told) :=
    (Command.serve.run_prepare keyed.answering [] valid equipped).1 t first
  refine ⟨⟨rfl, rfl, rfl⟩, ⟨equipped_keyed rfl rfl rfl, equipped_keyed rfl rfl rfl,
    equipped_keyed rfl rfl rfl⟩, ?_, ?_, ?_⟩
  · exact fails rfl (equipped_keyed rfl rfl rfl) rfl
  · exact fails rfl (equipped_keyed rfl rfl rfl) rfl
  · exact fails rfl (equipped_keyed rfl rfl rfl) rfl

end AnswerGateway.Program
