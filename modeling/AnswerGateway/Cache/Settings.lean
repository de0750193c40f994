import AnswerGateway.Fault
import AnswerGateway.Json.FromJson
import AnswerGateway.Json.TextFormat
import AnswerGateway.Json.Written
import AnswerGateway.Text.Blank

/-!
How a cache is set up. Every setting has a default. Settings with which a cache could not work are
found by `validate` before it is started, so no worker ever meets them.
-/

namespace AnswerGateway.Cache

open Json Json.Format

inductive Mode where
  | inside
  | remote
  deriving DecidableEq, Repr

namespace Mode

def name : Mode → String
  | .inside => "local"
  | .remote => "remote"

def all : List Mode := [.inside, .remote]

def format {D : Type → Type} [Format D] : D Mode :=
  choice "CacheMode" (all.map fun m => (m.name, m))

end Mode

structure Settings where
  collection : String := "llm_semantic_cache"
  dimensions : UInt64 := 1536
  /-- How much a kept question must be like a new one for its answer to be used. -/
  threshold : Float32 := 0.95
  workers : UInt64 := 5
  /-- How many records may wait for a worker. Records beyond it are dropped. -/
  queueCapacity : UInt64 := 1000
  mode : Mode := .inside
  remoteUrl : String := "http://localhost:50052"
  remoteTimeoutSecs : UInt64 := 3
  deriving DecidableEq, Repr

namespace Settings

def format {D : Type → Type} [Format D] : D Settings :=
  record "SemanticCacheConfig" {}
    [ defaulted "collection_name" text fun v s => { s with collection := v },
      defaulted "dimensions" size fun v s => { s with dimensions := v },
      defaulted "similarity_threshold" single fun v s => { s with threshold := v },
      defaulted "worker_count" size fun v s => { s with workers := v },
      defaulted "queue_capacity" size fun v s => { s with queueCapacity := v },
      defaulted "mode" Mode.format fun v s => { s with mode := v },
      defaulted "remote_url" text fun v s => { s with remoteUrl := v },
      defaulted "remote_timeout_secs" word64 fun v s => { s with remoteTimeoutSecs := v } ]

open JsonText in
def write (s : Settings) : List Char :=
  object (field "collection_name" (quote s.collection) ++
    field "dimensions" (natural s.dimensions.toNat) ++
    field "similarity_threshold" (JsonText.single s.threshold) ++
    field "worker_count" (natural s.workers.toNat) ++
    field "queue_capacity" (natural s.queueCapacity.toNat) ++
    field "mode" (quote s.mode.name) ++
    field "remote_url" (quote s.remoteUrl) ++
    field "remote_timeout_secs" (natural s.remoteTimeoutSecs.toNat))

/-- A threshold brought between zero and one. What is not a number stays what it is. -/
def clampThreshold (x : Float32) : Float32 := if x < 0 then 0 else if 1 < x then 1 else x

/-- The settings with another threshold, brought between zero and one. -/
def withThreshold (x : Float32) (s : Settings) : Settings :=
  { s with threshold := clampThreshold x }

/-- A setting with which the cache could not work, by its name and what is wrong with it. -/
def refuse (name problem : String) : Except Fault Unit :=
  .error (.configuration ("semantic_cache." ++ name ++ " " ++ problem))

/-- Finds the first setting with which a cache could not work. -/
def validate (s : Settings) : Except Fault Unit :=
  if Text.allBlank s.collection then refuse "collection_name" "cannot be empty"
  else if s.dimensions = 0 then refuse "dimensions" "must be at least 1"
  else if !(0 ≤ s.threshold && s.threshold ≤ 1) then
    refuse "similarity_threshold" "must be between 0 and 1"
  else if s.workers = 0 then refuse "worker_count" "must be at least 1"
  else if s.queueCapacity = 0 then refuse "queue_capacity" "must be at least 1"
  else if s.remoteTimeoutSecs = 0 then refuse "remote_timeout_secs" "must be at least 1"
  else .ok ()

end Settings

end AnswerGateway.Cache
