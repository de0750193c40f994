import AnswerGateway.Json.Format

/-!
How the answering of a request ended, and whether the answer may be kept. An answer that was cut
short is kept only if the policy allows it, because it will be replayed as if it were whole.
-/

namespace AnswerGateway.Relay

open Json Json.Format

inductive Source where
  | cache | provider
  deriving DecidableEq, Repr

def Source.name : Source → String
  | .cache => "cache"
  | .provider => "upstream"

inductive Termination where
  | completed
  /-- The provider reported an error, or its stream ended without saying that it is done. -/
  | providerError (message : String)
  | clientGone
  deriving DecidableEq, Repr

def Termination.name : Termination → String
  | .completed => "completed"
  | .providerError _ => "upstream_error"
  | .clientGone => "client_disconnected"

structure Outcome where
  source : Source
  termination : Termination
  answer : String
  tokenUsage : UInt32
  writeBack : Bool
  deriving DecidableEq, Repr

inductive WriteBack where
  | never
  | onProviderError
  /-- Also those that were cut short because the client left. -/
  | always
  deriving DecidableEq, Repr

namespace WriteBack

def name : WriteBack → String
  | .never => "never"
  | .onProviderError => "on_upstream_error"
  | .always => "always"

def all : List WriteBack := [.never, .onProviderError, .always]

def format {D : Type → Type} [Format D] : D WriteBack :=
  choice "PartialWriteBack" (all.map fun p => (p.name, p))

def allows (policy : WriteBack) : Termination → Bool
  | .completed => true
  | .providerError _ => policy ≠ .never
  | .clientGone => policy = .always

end WriteBack

end AnswerGateway.Relay
