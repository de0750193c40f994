import AnswerGateway.Cache.Engine
import AnswerGateway.Cache.Remote
import AnswerGateway.Completion.Provider
import AnswerGateway.Config.Load
import AnswerGateway.Embedding.Provider
import AnswerGateway.Program.Log
import AnswerGateway.Store.Remote

/-!
The parts that a configuration asks for, built from it and from the variables that hold the keys.
What is built is told to the log, also when a later part cannot be built.
-/

namespace AnswerGateway.Program

inductive Trouble where
  | fault (fault : Fault)
  /-- The host to listen at is no address. -/
  | badHost
  /-- A setting that no part can be built with, and that nothing has refused. -/
  | broken
  deriving DecidableEq, Repr

abbrev Telling (α : Type) := ExceptT Trouble (StateM (List LogEvent)) α

def tell (e : LogEvent) : Telling Unit := modify (· ++ [e])

def orFault {α : Type} : Except Fault α → Telling α
  | .ok a => pure a
  | .error f => throw (.fault f)

def targetOf (path : List String) : String :=
  String.intercalate "::" ("semantic_llm_gateway" :: path)

inductive AnyStore where
  | memory (store : Store.Memory)
  | remote (store : Store.Remote)
  deriving Repr

def AnyStore.backend : AnyStore → String
  | .memory _ => Config.StoreKind.memory.name
  | .remote _ => Config.StoreKind.remote.name

/-- How a remote store answers a request; not at all if nobody is there. -/
abbrev Answering := Store.Remote → Store.Remote.Request → Option Store.Remote.Reply

/-- The calls by which an engine makes sure of its collection in a store of either kind. -/
def AnyStore.calls (answering : Answering) : Store.Ensure.Calls (StateM AnyStore) where
  look name := fun s =>
    match s with
    | .memory m => (.ok (m.holds name), s)
    | .remote r =>
      let request := Store.Remote.Request.look name
      (match answering r request with
        | some reply => .ok reply.holds
        | none => .error (Store.Remote.refusal request), s)
  create spec := fun s =>
    match s with
    | .memory m =>
      let (result, m) := m.create spec
      (result, .memory m)
    | .remote r =>
      let request := Store.Remote.Request.create spec.name spec.dimensions
      (match answering r request with
        | some _ => .ok ()
        | none => .error (Store.Remote.refusal request), s)

/-- Builds the vector store. The key of a remote one is looked up before anything else. -/
def buildStore (env : Environment) (c : Config.VectorStore) : Telling AnyStore := do
  match c.kind with
  | .memory =>
    tell ⟨.info, targetOf [], "Using in-memory vector store", []⟩
    return .memory {}
  | .remote =>
    let key ← orFault (c.apiKeyEnv.mapM (Config.secret env))
    tell ⟨.info, targetOf [], "Using Qdrant vector store", [("url", .str c.url)]⟩
    return .remote (← orFault (Store.Remote.connect c.url key))

def buildEmbedding (env : Environment) (c : Config.Embedding) :
    Except Fault Embedding.Provider := do
  return ⟨← Config.secret env c.apiKeyEnv, c.model, c.dimensions.toNat, c.baseUrl⟩

def buildCompletion (env : Environment) (c : Config.Completion) :
    Except Fault Completion.Provider := do
  return ⟨← Config.secret env c.apiKeyEnv, c.baseUrl⟩

def queueLimit : Nat := 0x1FFFFFFFFFFFFFFF

def collectionEvent (spec : Store.CollectionSpec) (backend : String) (created : Bool) : LogEvent :=
  let target := targetOf ["domain", "vector_store", "store"]
  if created then
    ⟨.info, target, "Created vector collection",
      [("collection", .str spec.name), ("dimensions", .ofNat spec.dimensions),
        ("backend", .str backend)]⟩
  else ⟨.debug, target, "Vector collection already exists", [("collection", .str spec.name)]⟩

def engineTarget : String := targetOf ["infrastructure", "semantic_cache", "engine"]

def engineEvent (s : Cache.Settings) (backend : String) : LogEvent :=
  ⟨.info, engineTarget, "Semantic cache engine started",
    [("collection", .str s.collection), ("workers", .ofUInt64 s.workers),
      ("queue_capacity", .ofUInt64 s.queueCapacity), ("threshold", .ofSingle s.threshold),
      ("embedder", .str Embedding.Provider.name), ("store", .str backend)]⟩

/-- Builds the cache engine with its store and its provider of embeddings. -/
def buildEngine (answering : Answering) (env : Environment) (c : Config) :
    Telling Cache.Engine := do
  let store ← buildStore env c.vectorStore
  let embedding ← orFault (buildEmbedding env c.embedding)
  let settings := c.cache
  let start := Cache.Engine.start (AnyStore.calls answering) settings embedding.dimensions
  let started := start.run store
  let (engine, created) ← orFault started.1
  tell (collectionEvent (Cache.Engine.collectionSpec settings) store.backend created)
  if queueLimit < settings.queueCapacity.toNat then throw .broken
  tell (engineEvent settings store.backend)
  return engine

inductive AnyCache where
  | inside (engine : Cache.Engine)
  | remote (cache : Cache.Remote)
  deriving Repr

/-- Builds the cache: an engine, or one behind a cache service. -/
def buildCache (answering : Answering) (env : Environment) (c : Config) : Telling AnyCache := do
  match c.cache.mode with
  | .inside => return .inside (← buildEngine answering env c)
  | .remote =>
    tell ⟨.info, targetOf [], "Using remote semantic cache", [("url", .str c.cache.remoteUrl)]⟩
    return .remote ⟨c.cache.remoteUrl⟩

def AnyCache.stopEvent : AnyCache → LogEvent
  | .inside e =>
    ⟨.info, engineTarget, "Semantic cache engine stopped", [("collection", .str e.collection)]⟩
  | .remote r =>
    ⟨.debug, targetOf ["infrastructure", "semantic_cache", "remote"],
      "Detached from remote semantic cache", [("url", .str (Text.trimEnd '/' r.baseUrl))]⟩

end AnswerGateway.Program
