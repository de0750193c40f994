import AnswerGateway.Embedding.Similarity
import AnswerGateway.Json.Basic

/-!
Points of a vector store and the questions asked of it. A point has a vector and a payload of
fields; a question asks for the points most like a vector, among those whose payload has certain
texts in certain fields.
-/

namespace AnswerGateway.Store

abbrev Payload := List (String × Json)

def Payload.text? (payload : Payload) (name : String) : Option String :=
  (payload.lookup name).bind Json.text?

structure Point where
  id : String
  vector : Vector
  payload : Payload
  deriving Repr

structure ScoredPoint where
  id : String
  score : Float32
  payload : Payload
  deriving Repr

/-- What a collection holds: vectors of one length, compared by their cosine. -/
structure CollectionSpec where
  name : String
  dimensions : Nat
  deriving DecidableEq, Repr

/-- Conditions on a payload, all of which must hold: a field and the text it must have. -/
structure Filter where
  conditions : List (String × String) := []
  deriving DecidableEq, Repr

namespace Filter

def must (f : Filter) (name value : String) : Filter := ⟨f.conditions ++ [(name, value)]⟩

def holds (f : Filter) (payload : Payload) : Bool :=
  f.conditions.all fun c => payload.text? c.1 == some c.2

end Filter

structure Query where
  vector : Vector
  filter : Filter := {}
  threshold : Float32
  limit : Nat := 1
  deriving DecidableEq, Repr

end AnswerGateway.Store
