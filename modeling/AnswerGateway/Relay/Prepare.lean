import AnswerGateway.Cache.Record
import AnswerGateway.Relay.Outcome
import AnswerGateway.Relay.Request

/-!
Deciding where an answer comes from. The cache is asked first; a cache that fails is taken for one
that knows no answer. Only the provider's refusal is a failure that the client sees.
-/

namespace AnswerGateway.Relay

/-- What an answer will be made of. `σ` is an open stream of a provider. -/
inductive Origin (σ : Type) where
  | kept (answer : String)
  | stream (stream : σ)
  deriving Repr

/-- A request whose answer can be given without further failure. -/
structure Prepared (σ : Type) where
  request : RelayRequest
  origin : Origin σ
  deriving Repr

def Prepared.source {σ : Type} (p : Prepared σ) : Source :=
  match p.origin with
  | .kept _ => .cache
  | .stream _ => .provider

/-- What is needed to prepare: a cache to look in and a provider to ask. -/
structure Services (m : Type → Type) (σ : Type) where
  lookup : Cache.LookupRequest → m (Except Fault Cache.LookupResult)
  openStream : CompletionRequest → m (Except Fault σ)

variable {m : Type → Type} [Monad m] {σ : Type}

def prepareStream (services : Services m σ) (request : RelayRequest) :
    m (Except Fault (Prepared σ)) := do
  match ← services.openStream request.toCompletion with
  | .ok stream => return .ok ⟨request, .stream stream⟩
  | .error f => return .error f

/-- Looks in the cache, and asks the provider if nothing is found. -/
def prepare (services : Services m σ) (request : RelayRequest) :
    m (Except Fault (Prepared σ)) := do
  match ← services.lookup { prompt := request.prompt, model := request.model } with
  | .ok found =>
    if found.hit then return .ok ⟨request, .kept found.answer⟩
    else prepareStream services request
  | .error _ => prepareStream services request

end AnswerGateway.Relay
