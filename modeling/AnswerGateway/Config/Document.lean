import AnswerGateway.Config.Basic

/-!
The document of a configuration: every section and every setting, under the names by which they are
read. A threshold or a ratio that is no number is null in it. The names tell which variables of the
environment set what.
-/

namespace AnswerGateway

open Json

def Cache.Settings.toJson (s : Cache.Settings) : Json :=
  .obj
    [ ("collection_name", .str s.collection), ("dimensions", ofUInt64 s.dimensions),
      ("similarity_threshold", ofSingle s.threshold), ("worker_count", ofUInt64 s.workers),
      ("queue_capacity", ofUInt64 s.queueCapacity), ("mode", .str s.mode.name),
      ("remote_url", .str s.remoteUrl), ("remote_timeout_secs", ofUInt64 s.remoteTimeoutSecs) ]

namespace Config

def Listener.toJson (s : Listener) : Json :=
  .obj [("host", .str s.host), ("port", ofNat s.port.toNat)]

def Logging.toJson (s : Logging) : Json :=
  .obj [("level", .str s.level), ("format", .str s.layout.name)]

def Tracing.toJson (s : Tracing) : Json :=
  .obj
    [ ("enabled", .bool s.enabled), ("otlp_endpoint", .str s.endpoint),
      ("service_name", .str s.serviceName), ("sampling_ratio", ofFloat s.samplingRatio) ]

def MetricsPage.toJson (s : MetricsPage) : Json :=
  .obj [("enabled", .bool s.enabled), ("path", .str s.path)]

def Observability.toJson (s : Observability) : Json :=
  .obj [("tracing", s.tracing.toJson), ("metrics", s.metrics.toJson)]

def VectorStore.toJson (s : VectorStore) : Json :=
  .obj
    [ ("kind", .str s.kind.name), ("url", .str s.url),
      ("api_key_env", s.apiKeyEnv.elim .null .str) ]

def Embedding.toJson (s : Embedding) : Json :=
  .obj
    [ ("base_url", .str s.baseUrl), ("model", .str s.model), ("api_key_env", .str s.apiKeyEnv),
      ("dimensions", ofUInt64 s.dimensions), ("timeout_secs", ofUInt64 s.timeoutSecs) ]

def Completion.toJson (s : Completion) : Json :=
  .obj
    [ ("base_url", .str s.baseUrl), ("api_key_env", .str s.apiKeyEnv),
      ("timeout_secs", ofUInt64 s.timeoutSecs) ]

def Relay.toJson (s : Relay) : Json :=
  .obj
    [ ("replay_chunk_size", ofUInt64 s.replayChunkSize),
      ("partial_write_back", .str s.writeBack.name), ("allow_mock", .bool s.allowMock) ]

def toJson (c : Config) : Json :=
  .obj
    [ ("server", c.server.toJson), ("logging", c.logging.toJson),
      ("observability", c.observability.toJson), ("semantic_cache", c.cache.toJson),
      ("vector_store", c.vectorStore.toJson), ("embedding", c.embedding.toJson),
      ("completion", c.completion.toJson), ("relay", c.relay.toJson),
      ("cache_service", c.cacheService.toJson) ]

mutual

/-- The names of the variables that set the values in a document, each of which begins with the
names of the sections around it. -/
def variableNames (path : String) : Json → List String
  | .obj fields => sectionNames path fields
  | _ => [path]

def sectionNames (path : String) : List (String × Json) → List String
  | [] => []
  | (name, value) :: rest =>
    variableNames (path ++ "__" ++ name.toUpper) value ++ sectionNames path rest

end

end Config

end AnswerGateway
