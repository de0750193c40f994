import AnswerGateway.Cache.Settings
import AnswerGateway.Relay.Outcome

/-!
The configuration of the gateway. Every section and every setting has a default, so an empty
configuration is a runnable one. `Config.format` says how a configuration is written, for documents
and for layered settings alike; `Config.validate` finds settings with which nothing could start.
-/

namespace AnswerGateway

open Json Json.Format

namespace Config

structure Listener where
  host : String := "0.0.0.0"
  port : UInt16
  deriving DecidableEq, Repr

def Listener.format {D : Type → Type} [Format D] (name : String) (port : UInt16) : D Listener :=
  record name { port }
    [ defaulted "host" text fun v s => { s with host := v },
      defaulted "port" word16 fun v s => { s with port := v } ]

inductive LogLayout where
  | pretty | json
  deriving DecidableEq, Repr

def LogLayout.name : LogLayout → String
  | .pretty => "pretty"
  | .json => "json"

def LogLayout.format {D : Type → Type} [Format D] : D LogLayout :=
  choice "LogFormat" ([LogLayout.pretty, .json].map fun f => (f.name, f))

structure Logging where
  /-- The directives in force unless the environment gives others. -/
  level : String := "info"
  layout : LogLayout := .pretty
  deriving DecidableEq, Repr

def Logging.format {D : Type → Type} [Format D] : D Logging :=
  record "LoggingConfig" {}
    [ defaulted "level" text fun v s => { s with level := v },
      defaulted "format" LogLayout.format fun v s => { s with layout := v } ]

structure Tracing where
  enabled : Bool := false
  endpoint : String := "http://localhost:4317"
  serviceName : String := "semantic-llm-gateway"
  samplingRatio : Float := 1
  deriving DecidableEq, Repr

def Tracing.format {D : Type → Type} [Format D] : D Tracing :=
  record "TracingConfig" {}
    [ defaulted "enabled" flag fun v s => { s with enabled := v },
      defaulted "otlp_endpoint" text fun v s => { s with endpoint := v },
      defaulted "service_name" text fun v s => { s with serviceName := v },
      defaulted "sampling_ratio" double fun v s => { s with samplingRatio := v } ]

structure MetricsPage where
  enabled : Bool := true
  path : String := "/metrics"
  deriving DecidableEq, Repr

def MetricsPage.format {D : Type → Type} [Format D] : D MetricsPage :=
  record "MetricsConfig" {}
    [ defaulted "enabled" flag fun v s => { s with enabled := v },
      defaulted "path" text fun v s => { s with path := v } ]

structure Observability where
  tracing : Tracing := {}
  metrics : MetricsPage := {}
  deriving DecidableEq, Repr

def Observability.format {D : Type → Type} [Format D] : D Observability :=
  record "ObservabilityConfig" {}
    [ defaulted "tracing" Tracing.format fun v s => { s with tracing := v },
      defaulted "metrics" MetricsPage.format fun v s => { s with metrics := v } ]

inductive StoreKind where
  | remote
  | memory
  deriving DecidableEq, Repr

def StoreKind.name : StoreKind → String
  | .remote => "qdrant"
  | .memory => "memory"

def StoreKind.format {D : Type → Type} [Format D] : D StoreKind :=
  choice "VectorStoreKind" ([StoreKind.remote, .memory].map fun k => (k.name, k))

structure VectorStore where
  kind : StoreKind := .remote
  url : String := "http://localhost:6334"
  /-- The variable that holds the store's key, if it has one. -/
  apiKeyEnv : Option String := none
  deriving DecidableEq, Repr

def VectorStore.format {D : Type → Type} [Format D] : D VectorStore :=
  record "VectorStoreConfig" {}
    [ defaulted "kind" StoreKind.format fun v s => { s with kind := v },
      defaulted "url" text fun v s => { s with url := v },
      nullableDefaulted "api_key_env" text fun v s => { s with apiKeyEnv := v } ]

structure Embedding where
  baseUrl : String := "https://api.openai.com"
  model : String := "text-embedding-3-small"
  apiKeyEnv : String := "OPENAI_API_KEY"
  dimensions : UInt64 := 1536
  timeoutSecs : UInt64 := 30
  deriving DecidableEq, Repr

def Embedding.format {D : Type → Type} [Format D] : D Embedding :=
  record "EmbeddingConfig" {}
    [ defaulted "base_url" text fun v s => { s with baseUrl := v },
      defaulted "model" text fun v s => { s with model := v },
      defaulted "api_key_env" text fun v s => { s with apiKeyEnv := v },
      defaulted "dimensions" size fun v s => { s with dimensions := v },
      defaulted "timeout_secs" word64 fun v s => { s with timeoutSecs := v } ]

structure Completion where
  baseUrl : String := "https://api.openai.com"
  apiKeyEnv : String := "OPENAI_API_KEY"
  /-- How long a whole answer may take; zero for any time. -/
  timeoutSecs : UInt64 := 600
  deriving DecidableEq, Repr

def Completion.format {D : Type → Type} [Format D] : D Completion :=
  record "CompletionConfig" {}
    [ defaulted "base_url" text fun v s => { s with baseUrl := v },
      defaulted "api_key_env" text fun v s => { s with apiKeyEnv := v },
      defaulted "timeout_secs" word64 fun v s => { s with timeoutSecs := v } ]

structure Relay where
  /-- How many characters of a kept answer are sent at a time. -/
  replayChunkSize : UInt64 := 20
  writeBack : AnswerGateway.Relay.WriteBack := .onProviderError
  allowMock : Bool := true
  deriving DecidableEq, Repr

def Relay.format {D : Type → Type} [Format D] : D Relay :=
  record "RelayConfig" {}
    [ defaulted "replay_chunk_size" size fun v s => { s with replayChunkSize := v },
      defaulted "partial_write_back" AnswerGateway.Relay.WriteBack.format
        fun v s => { s with writeBack := v },
      defaulted "allow_mock" flag fun v s => { s with allowMock := v } ]

end Config

structure Config where
  server : Config.Listener := { port := 8080 }
  logging : Config.Logging := {}
  observability : Config.Observability := {}
  cache : Cache.Settings := {}
  vectorStore : Config.VectorStore := {}
  embedding : Config.Embedding := {}
  completion : Config.Completion := {}
  relay : Config.Relay := {}
  /-- Where the cache service listens, when it runs on its own. -/
  cacheService : Config.Listener := { port := 50052 }
  deriving DecidableEq, Repr

namespace Config

def format {D : Type → Type} [Format D] : D Config :=
  record "AppConfig" {}
    [ defaulted "server" (Listener.format "ServerConfig" 8080) fun v s => { s with server := v },
      defaulted "logging" Logging.format fun v s => { s with logging := v },
      defaulted "observability" Observability.format fun v s => { s with observability := v },
      defaulted "semantic_cache" Cache.Settings.format fun v s => { s with cache := v },
      defaulted "vector_store" VectorStore.format fun v s => { s with vectorStore := v },
      defaulted "embedding" Embedding.format fun v s => { s with embedding := v },
      defaulted "completion" Completion.format fun v s => { s with completion := v },
      defaulted "relay" Relay.format fun v s => { s with relay := v },
      defaulted "cache_service" (Listener.format "CacheServiceConfig" 50052)
        fun v s => { s with cacheService := v } ]

/-- Finds the first setting of the section with which the gateway could not be observed. -/
def Observability.validate (s : Observability) : Except Fault Unit :=
  if !(0 ≤ s.tracing.samplingRatio && s.tracing.samplingRatio ≤ 1) then
    .error (.configuration "observability.tracing.sampling_ratio must be between 0 and 1")
  else if s.metrics.path.toList.head? ≠ some '/' then
    .error (.configuration "observability.metrics.path must start with '/'")
  else .ok ()

/-- Finds the first setting with which the gateway could not start. -/
def validate (c : Config) : Except Fault Unit := do
  c.cache.validate
  c.observability.validate
  if c.embedding.dimensions ≠ c.cache.dimensions then
    throw (.configuration ("embedding.dimensions (" ++ toString c.embedding.dimensions ++
      ") must match semantic_cache.dimensions (" ++ toString c.cache.dimensions ++ ")"))
  if c.relay.replayChunkSize = 0 then
    throw (.configuration "relay.replay_chunk_size must be at least 1")

end Config

end AnswerGateway
