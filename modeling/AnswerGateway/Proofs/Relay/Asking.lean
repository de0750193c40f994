import AnswerGateway.Relay.Prepare

/-!
The preparation of an answer as a sequence of questions, so that between a question and its answer
anything else can happen. The preparation itself is the same for every way of asking; here a
question stops it until somebody goes on with an answer.
-/

namespace AnswerGateway.Relay

/-- A computation as far as its next question to the cache or to the provider. -/
inductive Asking (α : Type) where
  | done (a : α)
  | lookup (question : Cache.LookupRequest) (next : Except Fault Cache.LookupResult → Asking α)
  | openStream (request : CompletionRequest) (next : Except Fault Unit → Asking α)

namespace Asking

variable {α β : Type}

def bind : Asking α → (α → Asking β) → Asking β
  | .done a, f => f a
  | .lookup question next, f => .lookup question fun answer => (next answer).bind f
  | .openStream request next, f => .openStream request fun answer => (next answer).bind f

instance : Monad Asking where
  pure := .done
  bind := Asking.bind

/-- Services that stop at every question. An open stream is known by nothing but that it is open. -/
def services : Services Asking Unit where
  lookup question := .lookup question .done
  openStream request := .openStream request .done

end Asking

def preparing (request : RelayRequest) : Asking (Except Fault (Prepared Unit)) :=
  prepare Asking.services request

/-- How a preparation goes on after a question. -/
inductive Prepares (request : RelayRequest) : Asking (Except Fault (Prepared Unit)) → Prop where
  | looking {next : Except Fault Cache.LookupResult → Asking (Except Fault (Prepared Unit))}
      (found : ∀ result, result.hit = true →
        next (.ok result) = .done (.ok ⟨request, .kept result.answer⟩))
      (missed : ∀ answer, (∀ result, answer = .ok result → result.hit = false) →
        Prepares request (next answer)) :
      Prepares request (.lookup { prompt := request.prompt, model := request.model } next)
  | opening {next : Except Fault Unit → Asking (Except Fault (Prepared Unit))}
      (opened : next (.ok ()) = .done (.ok ⟨request, .stream ()⟩))
      (refused : ∀ f, next (.error f) = .done (.error f)) :
      Prepares request (.openStream request.toCompletion next)

theorem prepares_stream (request : RelayRequest) :
    Prepares request (prepareStream Asking.services request) :=
  .opening rfl fun _ => rfl

/-- A preparation looks in the cache once; only what it finds there makes it keep to the cache. -/
theorem prepares_preparing (request : RelayRequest) : Prepares request (preparing request) := by
  refine .looking ?_ ?_
  · intro result hit
    simp [Asking.bind, hit, pure]
  · intro answer miss
    cases answer with
    | error f => exact prepares_stream request
    | ok result =>
        have nothing := miss result rfl
        simpa [Asking.bind, nothing, pure, Bind.bind] using prepares_stream request

end AnswerGateway.Relay
