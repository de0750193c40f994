import AnswerGateway.Fault
import AnswerGateway.Net.Uri
import AnswerGateway.Store.Point
import AnswerGateway.Store.Tree
import AnswerGateway.Text.Shown

/-!
A vector store on another machine. What is asked of it becomes a request; what it replies is taken
as it is: the points it has found are not compared, sorted or counted again.
-/

namespace AnswerGateway.Store

structure Remote where
  url : String
  apiKey : Option String := none
  deriving DecidableEq, Repr

namespace Remote

inductive Request where
  | look (collection : String)
  /-- A new collection, whose vectors are compared by their cosine. -/
  | create (collection : String) (size : Nat)
  /-- A point to be kept; the reply is to wait until it is. -/
  | upsert (collection id : String) (vector : Vector) (payload : List (String × Tree))
  /-- The points most like a vector, with their payloads. All conditions of the filter must
  hold. -/
  | search (collection : String) (vector : Vector) (limit : Nat) (threshold : Float32)
      (filter : Option Filter)
  deriving Repr

inductive PointId where
  | unset
  | number (n : UInt64)
  | uuid (text : String)
  deriving DecidableEq, Repr

def PointId.text : PointId → String
  | .unset => ""
  | .number n => toString n.toNat
  | .uuid text => text

structure Found where
  id : PointId := .unset
  score : Float32
  payload : List (String × Tree)
  deriving Repr

/-- A reply. What a request does not ask for is left at its default. -/
structure Reply where
  holds : Bool := false
  points : List Found := []
  deriving Repr

/-- Connects to a store. Nothing is sent; only the address is read. -/
def connect (url : String) (apiKey : Option String) : Except Fault Remote :=
  match Net.Uri.parse url with
  | .ok _ => .ok ⟨url, apiKey⟩
  | .error e => .error (.vectorStore ("Failed to create client: Invalid URI: " ++ e.message))

/-- The store as it is shown to people. Its key is not. -/
def shown (r : Remote) : String :=
  "QdrantVectorStore \x7b url: " ++ Text.shown r.url ++ ", .. \x7d"

def upsertRequest (collection : String) (p : Point) : Request :=
  .upsert collection p.id p.vector (Tree.ofFields p.payload)

/-- The request for a question. A filter without conditions is left out. -/
def searchRequest (collection : String) (q : Query) : Request :=
  .search collection q.vector q.limit q.threshold
    (if q.filter.conditions.isEmpty then none else some q.filter)

/-- What the store says to a request that it does not grant. -/
def refusal : Request → Fault
  | .look _ => .vectorStore "Failed to check collection"
  | .create .. => .vectorStore "Failed to create collection"
  | .upsert .. => .vectorStore "Failed to upsert point"
  | .search .. => .vectorStore "Failed to query points"

def Found.scored (p : Found) : ScoredPoint := ⟨p.id.text, p.score, Tree.toFields p.payload⟩

/-- The points in a reply, in its order. -/
def Reply.scored (r : Reply) : List ScoredPoint := r.points.map Found.scored

end Remote

end AnswerGateway.Store
