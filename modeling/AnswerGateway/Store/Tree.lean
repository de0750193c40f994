import AnswerGateway.Json.Basic

/-!
Trees of values, the form in which a remote store keeps the fields of a payload. They know signed
integers of 64 bits and doubles of any kind, so a document becomes a tree and comes back as it was
unless it holds a larger integer; a tree comes back as it was if it holds no double that is not a
number of documents, and no value without a kind.
-/

namespace AnswerGateway.Store

inductive Tree where
  | unset
  /-- No value; the code is 0 unless somebody has sent another. -/
  | null (code : Int32)
  | bool (value : Bool)
  | int (value : Int64)
  | double (value : Float)
  | text (value : String)
  | list (items : List Tree)
  | record (fields : List (String × Tree))
  deriving Repr

namespace Tree

instance : Inhabited Tree := ⟨.unset⟩

/-- An integer, as a double if it has no place among the signed ones. -/
def ofInteger (i : Integer) : Tree :=
  if i.isSigned then .int (Int64.ofInt i.val) else .double (UInt64.ofNat i.val.toNat).toFloat

mutual

def ofJson : Json → Tree
  | .null => .null 0
  | .bool b => .bool b
  | .int i => ofInteger i
  | .double x => .double x.val
  | .str s => .text s
  | .arr items => .list (ofItems items)
  | .obj fields => .record (ofFields fields)

def ofItems : List Json → List Tree
  | [] => []
  | j :: rest => ofJson j :: ofItems rest

def ofFields : List (String × Json) → List (String × Tree)
  | [] => []
  | (name, j) :: rest => (name, ofJson j) :: ofFields rest

end

mutual

/-- The document of a tree. A double that documents cannot hold is no value. -/
def toJson : Tree → Json
  | .unset => .null
  | .null _ => .null
  | .bool b => .bool b
  | .int i => .ofInt64 i
  | .double x => .ofFloat x
  | .text s => .str s
  | .list items => .arr (toItems items)
  | .record fields => .obj (toFields fields)

def toItems : List Tree → List Json
  | [] => []
  | t :: rest => toJson t :: toItems rest

def toFields : List (String × Tree) → List (String × Json)
  | [] => []
  | (name, t) :: rest => (name, toJson t) :: toFields rest

end

end Tree

end AnswerGateway.Store
