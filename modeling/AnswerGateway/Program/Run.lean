import AnswerGateway.Http.Service
import AnswerGateway.Net.Ip
import AnswerGateway.Program.Command
import AnswerGateway.Program.Parts
import AnswerGateway.Program.Variables

/-!
A run of the program, from its command line to its end. First come the variables and the
configuration, then the log, then the parts that the command needs, one after the other; the first
one that cannot be built ends the run. When everything is there the program serves until it is told
to stop, and then stops the cache before the log.
-/

namespace AnswerGateway.Program

inductive Signal where
  | terminate | interrupt
  deriving DecidableEq, Repr

def Signal.title : Signal → String
  | .terminate => "SIGTERM"
  | .interrupt => "Ctrl+C"

structure Surroundings where
  env : Environment := []
  files : List (String × String) := []
  answering : Answering := fun _ _ => none

inductive Printed where
  | reply (text : String)
  | log (layout : Config.LogLayout) (events : List LogEvent)
  deriving Repr

def Printed.isProse : Printed → Bool
  | .reply _ => true
  | .log .pretty events => !events.isEmpty
  | .log .json _ => false

def Printed.events : Printed → List LogEvent
  | .reply _ => []
  | .log _ events => events

def Printed.lines : Printed → List String
  | .reply text => [text]
  | .log .pretty events => events.map LogEvent.proseLine
  | .log .json events => events.map LogEvent.documentLine

structure Outcome where
  exitCode : Nat
  message : Option String := none
  printed : Printed := .log .json []
  deriving Repr

/-- The filter: that of the environment if it makes sense, else that of the configuration. -/
def logFilter (env : Environment) (c : Config.Logging) : LogFilter :=
  ((env.lookup "RUST_LOG").bind LogFilter.parse?).getD (.parseLossy c.level)

def tracingTarget : String := targetOf ["infrastructure", "observability", "tracing_setup"]

/-- What is told when the log has been set up. Traces are not exported to an address that cannot be
read, and that is no reason to stop. -/
def tracingEvent (c : Config) : LogEvent :=
  let t := c.observability.tracing
  if !t.enabled then
    ⟨.info, tracingTarget, "Tracing initialized (OpenTelemetry disabled)",
      [("level", .str c.logging.level)]⟩
  else
    match Net.Uri.parse t.endpoint with
    | .ok _ =>
      ⟨.info, tracingTarget, "Tracing initialized with OpenTelemetry export to " ++ t.endpoint, []⟩
    | .error e =>
      ⟨.warn, tracingTarget,
        "Failed to initialize OpenTelemetry: Exporter otlp encountered the following error(s): " ++
          "invalid URI " ++ e.message ++ ". Tracing disabled.", []⟩

def metricsEvent (c : Config.MetricsPage) : LogEvent :=
  ⟨.info, targetOf ["infrastructure", "observability", "metrics"],
    if c.enabled then "Prometheus metrics initialized at " ++ c.path
    else "Prometheus metrics disabled", []⟩

def modeTitle : Cache.Mode → String
  | .inside => "Local"
  | .remote => "Remote"

structure Task where
  listener : Config → Config.Listener
  /-- The events before the first and after the last request. -/
  started : (address : String) → Config → LogEvent
  ended : LogEvent
  cache : Answering → Environment → Config → Telling AnyCache
  endpoints : List Http.Endpoint

def Command.target (c : Command) : String := targetOf ["cli", c.name]

/-- The task of a command. The gateway needs a provider of answers besides its cache. -/
def Command.task : Command → Task
  | .serve =>
    { listener := Config.server
      started := fun address c =>
        ⟨.info, Command.target .serve, "Starting gateway",
          [("addr", .str address), ("cache_mode", .str (modeTitle c.cache.mode))]⟩
      ended := ⟨.info, Command.target .serve, "Gateway shutdown complete", []⟩
      cache := fun answering env c => do
        let cache ← buildCache answering env c
        let _ ← orFault (buildCompletion env c.completion)
        return cache
      endpoints := [.health, .live, .chat] }
  | .cache =>
    { listener := Config.cacheService
      started := fun address c =>
        ⟨.info, Command.target .cache, "Starting semantic cache service",
          [("addr", .str address), ("collection", .str c.cache.collection)]⟩
      ended := ⟨.info, Command.target .cache, "Semantic cache service shutdown complete", []⟩
      cache := fun answering env c => .inside <$> buildEngine answering env c
      endpoints := [.health, .live, .lookup, .record] }

/-- Prepares everything up to the point where requests can come in: the cache, and the address. -/
def prepare (task : Task) (answering : Answering) (env : Environment) (c : Config) :
    Telling AnyCache := do
  tell (tracingEvent c)
  orFault c.validate
  let cache ← task.cache answering env c
  let page := c.observability.metrics
  tell (metricsEvent page)
  if page.enabled && !Http.NumbersPage.mountable task.endpoints page.path then throw .broken
  let listener := task.listener c
  match Net.Ip.parse? listener.host with
  | none => throw .badHost
  | some ip => tell (task.started (ip.withPort listener.port) c)
  return cache

def serveUntil (signal : Signal) (task : Task) (cache : AnyCache) : Telling Unit := do
  tell ⟨.info, targetOf ["cli"],
    "Received " ++ signal.title ++ ", initiating graceful shutdown", []⟩
  tell cache.stopEvent
  tell ⟨.info, tracingTarget, "Tracing shutdown complete", []⟩
  tell task.ended

def Trouble.outcome : Trouble → Outcome
  | .fault f => { exitCode := 1, message := some f.display }
  | .badHost => { exitCode := 1, message := some "invalid IP address syntax" }
  | .broken => { exitCode := 101 }

def Command.run (command : Command) (s : Surroundings) (signal : Signal) : Outcome :=
  let env := match s.files.lookup ".env" with
    | some text => Variables.addFile s.env text
    | none => s.env
  match Config.load s.files env with
  | .error f => { exitCode := 1, message := some f.message }
  | .ok config =>
    let task := command.task
    let (result, events) :=
      (do serveUntil signal task (← prepare task s.answering env config) : Telling Unit).run []
    let outcome : Outcome := match result with
      | .ok () => { exitCode := 0 }
      | .error trouble => trouble.outcome
    { outcome with
      printed := .log config.logging.layout (events.filter (logFilter env config.logging).admits) }

/-- What is written in place of a run. Nothing is, unless it was asked for. -/
def Halt.printed : Halt → Printed
  | .help => .reply Command.usage
  | .version => .reply (programName ++ " " ++ Http.version)
  | _ => .log .json []

def run (args : List String) (s : Surroundings) (signal : Signal) : Outcome :=
  match Command.parse args with
  | .ok command => command.run s signal
  | .error halt => { exitCode := halt.exitCode, printed := halt.printed }

end AnswerGateway.Program
