import AnswerGateway.Fault
import AnswerGateway.Store.Point

/-!
A vector store in memory. Every collection keeps its points in the order in which their ids first
came; a question looks at all of them. Points of equal score are answered in that order too.
-/

namespace AnswerGateway.Store

/-- A collection: what it may hold and what it holds. -/
structure Collection where
  spec : CollectionSpec
  points : List Point := []
  deriving Repr

/-- Puts a point in the place of the one of the same id, or at the end. -/
def putPoint (p : Point) : List Point → List Point
  | [] => [p]
  | q :: rest => if q.id = p.id then p :: rest else q :: putPoint p rest

/-- The points that satisfy the filter, with their likeness to the vector of the question. -/
def Query.scored (q : Query) (points : List Point) : List ScoredPoint :=
  (points.filter fun p => q.filter.holds p.payload).map fun p =>
    { id := p.id, score := q.vector.cosine p.vector, payload := p.payload }

/-- The answer to a question: the best of the points that reach the threshold, the earlier of two
that score the same first. -/
def Query.answer (q : Query) (points : List Point) : List ScoredPoint :=
  (((q.scored points).filter fun p => q.threshold ≤ p.score).mergeSort
    fun a b => b.score ≤ a.score).take q.limit

/-- A store in memory, with the number of attempts to create a collection. -/
structure Memory where
  collections : List Collection := []
  createCalls : Nat := 0
  deriving Repr

namespace Memory

def find? (m : Memory) (name : String) : Option Collection :=
  m.collections.find? (·.spec.name = name)

def holds (m : Memory) (name : String) : Bool := (m.find? name).isSome

/-- The points of a collection; none if there is no such collection. -/
def points (m : Memory) (name : String) : List Point :=
  ((m.find? name).map Collection.points).getD []

def notFound (name : String) : Fault := .vectorStore ("Collection \x60" ++ name ++ "\x60 not found")

def alreadyExists (name : String) : Fault :=
  .vectorStore ("Collection \x60" ++ name ++ "\x60 already exists")

def wrongLength (expected got : Nat) : Fault :=
  .vectorStore ("Vector dimension error: expected dim: " ++ toString expected ++ ", got " ++
    toString got)

/-- Creates a collection. The attempt is counted even if it fails. -/
def create (m : Memory) (spec : CollectionSpec) : Except Fault Unit × Memory :=
  let m := { m with createCalls := m.createCalls + 1 }
  if m.holds spec.name then (.error (alreadyExists spec.name), m)
  else (.ok (), { m with collections := m.collections ++ [⟨spec, []⟩] })

def update (m : Memory) (name : String) (f : Collection → Collection) : Memory :=
  { m with collections := m.collections.map fun c => if c.spec.name = name then f c else c }

/-- Puts a point into a collection, in place of the one of the same id. -/
def upsert (m : Memory) (name : String) (p : Point) : Except Fault Unit × Memory :=
  match m.find? name with
  | none => (.error (notFound name), m)
  | some c =>
    if p.vector.length = c.spec.dimensions then
      (.ok (), m.update name fun c => { c with points := putPoint p c.points })
    else (.error (wrongLength c.spec.dimensions p.vector.length), m)

def query (m : Memory) (name : String) (q : Query) : Except Fault (List ScoredPoint) :=
  match m.find? name with
  | none => .error (notFound name)
  | some c => .ok (q.answer c.points)

end Memory

end AnswerGateway.Store
