import AnswerGateway.Proofs.Config.Reach

/-!
The settings of the configuration that are texts: hosts, addresses, names and paths. A text at the
place of such a setting becomes the setting and changes nothing else.
-/

/-! Texts within the sections. -/

namespace AnswerGateway.Cache.Settings

open Config

theorem reaches_collection :
    Reaches format ["collection_name"] fun t s => { s with collection := t } :=
  Reaches.text.inRecord rfl rfl (fun _ _ _ => rfl) (by simp)

theorem reaches_remoteUrl :
    Reaches format ["remote_url"] fun t s => { s with remoteUrl := t } :=
  Reaches.text.inRecord rfl rfl (fun _ _ _ => rfl) (by simp)

end AnswerGateway.Cache.Settings

namespace AnswerGateway.Config

theorem Listener.reaches_host {type : String} {port : UInt16} :
    Reaches (format type port) ["host"] fun t s => { s with host := t } :=
  Reaches.text.inRecord rfl rfl (fun _ _ _ => rfl) (by simp)

theorem Logging.reaches_level :
    Reaches format ["level"] fun t s => { s with level := t } :=
  Reaches.text.inRecord rfl rfl (fun _ _ _ => rfl) (by simp)

theorem Tracing.reaches_endpoint :
    Reaches format ["otlp_endpoint"] fun t s => { s with endpoint := t } :=
  Reaches.text.inRecord rfl rfl (fun _ _ _ => rfl) (by simp)

theorem Tracing.reaches_serviceName :
    Reaches format ["service_name"] fun t s => { s with serviceName := t } :=
  Reaches.text.inRecord rfl rfl (fun _ _ _ => rfl) (by simp)

theorem MetricsPage.reaches_path :
    Reaches format ["path"] fun t s => { s with path := t } :=
  Reaches.text.inRecord rfl rfl (fun _ _ _ => rfl) (by simp)

theorem VectorStore.reaches_url :
    Reaches format ["url"] fun t s => { s with url := t } :=
  Reaches.text.inRecord rfl rfl (fun _ _ _ => rfl) (by simp)

theorem VectorStore.reaches_apiKeyEnv :
    Reaches format ["api_key_env"] fun t s => { s with apiKeyEnv := some t } :=
  Reaches.optional.inRecord rfl rfl (fun _ _ _ => rfl) (by simp)

theorem Embedding.reaches_baseUrl :
    Reaches format ["base_url"] fun t s => { s with baseUrl := t } :=
  Reaches.text.inRecord rfl rfl (fun _ _ _ => rfl) (by simp)

theorem Embedding.reaches_model :
    Reaches format ["model"] fun t s => { s with model := t } :=
  Reaches.text.inRecord rfl rfl (fun _ _ _ => rfl) (by simp)

theorem Embedding.reaches_apiKeyEnv :
    Reaches format ["api_key_env"] fun t s => { s with apiKeyEnv := t } :=
  Reaches.text.inRecord rfl rfl (fun _ _ _ => rfl) (by simp)

theorem Completion.reaches_baseUrl :
    Reaches format ["base_url"] fun t s => { s with baseUrl := t } :=
  Reaches.text.inRecord rfl rfl (fun _ _ _ => rfl) (by simp)

theorem Completion.reaches_apiKeyEnv :
    Reaches format ["api_key_env"] fun t s => { s with apiKeyEnv := t } :=
  Reaches.text.inRecord rfl rfl (fun _ _ _ => rfl) (by simp)

/-! The sections within the configuration. -/

section Sections

variable {path : List String}

theorem Observability.reaches_tracing {act : String → Tracing → Tracing}
    (inner : Reaches Tracing.format path act) :
    Reaches format ("tracing" :: path) fun t s => { s with tracing := act t s.tracing } :=
  inner.inRecord rfl rfl (fun _ _ _ => rfl) (by simp)

theorem Observability.reaches_metrics {act : String → MetricsPage → MetricsPage}
    (inner : Reaches MetricsPage.format path act) :
    Reaches format ("metrics" :: path) fun t s => { s with metrics := act t s.metrics } :=
  inner.inRecord rfl rfl (fun _ _ _ => rfl) (by simp)

theorem reaches_server {act : String → Listener → Listener}
    (inner : Reaches (Listener.format "ServerConfig" 8080) path act) :
    Reaches format ("server" :: path) fun t c => { c with server := act t c.server } :=
  inner.inRecord rfl rfl (fun _ _ _ => rfl) (by simp)

theorem reaches_logging {act : String → Logging → Logging}
    (inner : Reaches Logging.format path act) :
    Reaches format ("logging" :: path) fun t c => { c with logging := act t c.logging } :=
  inner.inRecord rfl rfl (fun _ _ _ => rfl) (by simp)

theorem reaches_observability {act : String → Observability → Observability}
    (inner : Reaches Observability.format path act) :
    Reaches format ("observability" :: path)
      fun t c => { c with observability := act t c.observability } :=
  inner.inRecord rfl rfl (fun _ _ _ => rfl) (by simp)

theorem reaches_cache {act : String → Cache.Settings → Cache.Settings}
    (inner : Reaches Cache.Settings.format path act) :
    Reaches format ("semantic_cache" :: path) fun t c => { c with cache := act t c.cache } :=
  inner.inRecord rfl rfl (fun _ _ _ => rfl) (by simp)

theorem reaches_vectorStore {act : String → VectorStore → VectorStore}
    (inner : Reaches VectorStore.format path act) :
    Reaches format ("vector_store" :: path)
      fun t c => { c with vectorStore := act t c.vectorStore } :=
  inner.inRecord rfl rfl (fun _ _ _ => rfl) (by simp)

theorem reaches_embedding {act : String → Embedding → Embedding}
    (inner : Reaches Embedding.format path act) :
    Reaches format ("embedding" :: path) fun t c => { c with embedding := act t c.embedding } :=
  inner.inRecord rfl rfl (fun _ _ _ => rfl) (by simp)

theorem reaches_completion {act : String → Completion → Completion}
    (inner : Reaches Completion.format path act) :
    Reaches format ("completion" :: path) fun t c => { c with completion := act t c.completion } :=
  inner.inRecord rfl rfl (fun _ _ _ => rfl) (by simp)

theorem reaches_cacheService {act : String → Listener → Listener}
    (inner : Reaches (Listener.format "CacheServiceConfig" 50052) path act) :
    Reaches format ("cache_service" :: path)
      fun t c => { c with cacheService := act t c.cacheService } :=
  inner.inRecord rfl rfl (fun _ _ _ => rfl) (by simp)

end Sections

/-! All texts of the configuration. -/

/-- A setting that is a text. -/
inductive TextSetting where
  | host
  | logLevel
  | traceEndpoint
  | traceService
  | metricsPath
  | collection
  | cacheUrl
  | storeUrl
  | storeKeyEnv
  | embeddingUrl
  | embeddingModel
  | embeddingKeyEnv
  | completionUrl
  | completionKeyEnv
  | cacheServiceHost
  deriving DecidableEq

namespace TextSetting

def all : List TextSetting :=
  [.host, .logLevel, .traceEndpoint, .traceService, .metricsPath, .collection, .cacheUrl, .storeUrl,
    .storeKeyEnv, .embeddingUrl, .embeddingModel, .embeddingKeyEnv, .completionUrl,
    .completionKeyEnv, .cacheServiceHost]

/-- The sections around a setting and its own name. -/
def path : TextSetting → List String
  | host => ["server", "host"]
  | logLevel => ["logging", "level"]
  | traceEndpoint => ["observability", "tracing", "otlp_endpoint"]
  | traceService => ["observability", "tracing", "service_name"]
  | metricsPath => ["observability", "metrics", "path"]
  | collection => ["semantic_cache", "collection_name"]
  | cacheUrl => ["semantic_cache", "remote_url"]
  | storeUrl => ["vector_store", "url"]
  | storeKeyEnv => ["vector_store", "api_key_env"]
  | embeddingUrl => ["embedding", "base_url"]
  | embeddingModel => ["embedding", "model"]
  | embeddingKeyEnv => ["embedding", "api_key_env"]
  | completionUrl => ["completion", "base_url"]
  | completionKeyEnv => ["completion", "api_key_env"]
  | cacheServiceHost => ["cache_service", "host"]

def get : TextSetting → Config → Option String
  | host, c => some c.server.host
  | logLevel, c => some c.logging.level
  | traceEndpoint, c => some c.observability.tracing.endpoint
  | traceService, c => some c.observability.tracing.serviceName
  | metricsPath, c => some c.observability.metrics.path
  | collection, c => some c.cache.collection
  | cacheUrl, c => some c.cache.remoteUrl
  | storeUrl, c => some c.vectorStore.url
  | storeKeyEnv, c => c.vectorStore.apiKeyEnv
  | embeddingUrl, c => some c.embedding.baseUrl
  | embeddingModel, c => some c.embedding.model
  | embeddingKeyEnv, c => some c.embedding.apiKeyEnv
  | completionUrl, c => some c.completion.baseUrl
  | completionKeyEnv, c => some c.completion.apiKeyEnv
  | cacheServiceHost, c => some c.cacheService.host

def set : TextSetting → String → Config → Config
  | host, t, c => { c with server.host := t }
  | logLevel, t, c => { c with logging.level := t }
  | traceEndpoint, t, c => { c with observability.tracing.endpoint := t }
  | traceService, t, c => { c with observability.tracing.serviceName := t }
  | metricsPath, t, c => { c with observability.metrics.path := t }
  | collection, t, c => { c with cache.collection := t }
  | cacheUrl, t, c => { c with cache.remoteUrl := t }
  | storeUrl, t, c => { c with vectorStore.url := t }
  | storeKeyEnv, t, c => { c with vectorStore.apiKeyEnv := some t }
  | embeddingUrl, t, c => { c with embedding.baseUrl := t }
  | embeddingModel, t, c => { c with embedding.model := t }
  | embeddingKeyEnv, t, c => { c with embedding.apiKeyEnv := t }
  | completionUrl, t, c => { c with completion.baseUrl := t }
  | completionKeyEnv, t, c => { c with completion.apiKeyEnv := t }
  | cacheServiceHost, t, c => { c with cacheService.host := t }

variable (s : TextSetting) (t : String) (c : Config)

@[simp]
theorem get_set : s.get (s.set t c) = some t := by cases s <;> rfl

theorem mem_all : s ∈ all := by cases s <;> decide

/-- A text at the place of a setting becomes the setting, and that is all it does. -/
theorem reaches : Reaches format s.path s.set := by
  cases s with
  | host => exact reaches_server Listener.reaches_host
  | logLevel => exact reaches_logging Logging.reaches_level
  | traceEndpoint =>
      exact reaches_observability (Observability.reaches_tracing Tracing.reaches_endpoint)
  | traceService =>
      exact reaches_observability (Observability.reaches_tracing Tracing.reaches_serviceName)
  | metricsPath =>
      exact reaches_observability (Observability.reaches_metrics MetricsPage.reaches_path)
  | collection => exact reaches_cache Cache.Settings.reaches_collection
  | cacheUrl => exact reaches_cache Cache.Settings.reaches_remoteUrl
  | storeUrl => exact reaches_vectorStore VectorStore.reaches_url
  | storeKeyEnv => exact reaches_vectorStore VectorStore.reaches_apiKeyEnv
  | embeddingUrl => exact reaches_embedding Embedding.reaches_baseUrl
  | embeddingModel => exact reaches_embedding Embedding.reaches_model
  | embeddingKeyEnv => exact reaches_embedding Embedding.reaches_apiKeyEnv
  | completionUrl => exact reaches_completion Completion.reaches_baseUrl
  | completionKeyEnv => exact reaches_completion Completion.reaches_apiKeyEnv
  | cacheServiceHost => exact reaches_cacheService Listener.reaches_host

end TextSetting

/-- The paths in a document at which a type has a text of its own. Choices are no texts. -/
def TextPaths (_ : Type) : Type := List (List String)

instance : Json.Format TextPaths where
  map _ paths := paths
  text := [[]]
  flag := []
  unsigned _ _ := []
  signed := []
  single := []
  double := []
  optional paths := paths
  list _ := []
  choice _ _ := []
  record _ _ fields := fields.flatMap fun f => List.map (f.name :: ·) f.change

/-- The paths of the texts of a configuration. -/
def textPaths : List (List String) := (format : TextPaths Config)

/-- No text of the configuration is left out. -/
theorem mem_textPaths_iff {path : List String} :
    path ∈ textPaths ↔ ∃ s : TextSetting, s.path = path := by
  have listed : textPaths = TextSetting.all.map TextSetting.path := rfl
  rw [listed, List.mem_map]
  constructor
  · rintro ⟨s, -, same⟩
    exact ⟨s, same⟩
  · rintro ⟨s, same⟩
    exact ⟨s, s.mem_all, same⟩

end AnswerGateway.Config
