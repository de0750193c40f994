/-!
Documents: null, truth values, numbers, texts, lists and objects. Whole numbers of 64 bits are
kept apart from double-precision numbers, because the gateway reports them differently and a
vector store keeps them in different fields. An object is a list of fields in the order in which
they were written; `canonical` sorts the fields and lets the last one of a name win.
-/

namespace AnswerGateway

structure Integer where
  val : Int
  lower : -0x8000000000000000 ≤ val
  upper : val < 0x10000000000000000
  deriving DecidableEq, Repr

namespace Integer

def ofInt? (i : Int) : Option Integer :=
  if h : -0x8000000000000000 ≤ i ∧ i < 0x10000000000000000 then some ⟨i, h.1, h.2⟩ else none

def ofUInt64 (n : UInt64) : Integer :=
  ⟨n.toNat, by have := n.toNat_lt; omega, by have := n.toNat_lt; omega⟩

def ofUInt32 (n : UInt32) : Integer := ofUInt64 n.toUInt64

def ofInt64 (n : Int64) : Integer :=
  ⟨n.toInt, by have := n.le_toInt; omega, by have := n.toInt_lt; omega⟩

def isSigned (i : Integer) : Bool := i.val < 0x8000000000000000

end Integer

/-- A double-precision number that is neither infinite nor undefined. -/
structure Finite where
  val : Float
  isFinite : val.isFinite = true
  deriving DecidableEq, Repr

namespace Finite

def ofFloat? (x : Float) : Option Finite :=
  if h : x.isFinite = true then some ⟨x, h⟩ else none

end Finite

inductive Json where
  | null
  | bool (b : Bool)
  | int (i : Integer)
  | double (x : Finite)
  | str (s : String)
  | arr (items : List Json)
  | obj (fields : List (String × Json))
  deriving Repr

namespace Json

instance : Inhabited Json := ⟨.null⟩

/-- A number as a document. Documents have no infinities, so those become null. -/
def ofFloat (x : Float) : Json :=
  match Finite.ofFloat? x with
  | some y => .double y
  | none => .null

/-- The double-precision number equal to a single-precision one, as a document. -/
def ofSingle (x : Float32) : Json := ofFloat x.toFloat

/-- A natural number as a document, as a double when it needs more than 64 bits. -/
def ofNat (n : Nat) : Json :=
  match Integer.ofInt? n with
  | some i => .int i
  | none => ofFloat n.toFloat

def ofUInt32 (n : UInt32) : Json := .int (Integer.ofUInt32 n)

def ofUInt64 (n : UInt64) : Json := .int (Integer.ofUInt64 n)

def ofInt64 (n : Int64) : Json := .int (Integer.ofInt64 n)

/-- The value of the first field of that name. -/
def field? (j : Json) (name : String) : Option Json :=
  match j with
  | .obj fields => fields.lookup name
  | _ => none

def text? : Json → Option String
  | .str s => some s
  | _ => none

/-- Puts a field into fields that are sorted by name, in place of one of the same name. -/
def insertField (name : String) (value : Json) : List (String × Json) → List (String × Json)
  | [] => [(name, value)]
  | (n, v) :: rest =>
    if name == n then (name, value) :: rest
    else if name < n then (name, value) :: (n, v) :: rest
    else (n, v) :: insertField name value rest

mutual

/-- The same document with the fields of each object sorted by name. Of several fields of one
name the last is kept. -/
def canonical : Json → Json
  | .arr items => .arr (canonicalItems items)
  | .obj fields => .obj ((canonicalFields fields).foldl (fun done f => insertField f.1 f.2 done) [])
  | other => other

def canonicalItems : List Json → List Json
  | [] => []
  | j :: rest => j.canonical :: canonicalItems rest

def canonicalFields : List (String × Json) → List (String × Json)
  | [] => []
  | (n, j) :: rest => (n, j.canonical) :: canonicalFields rest

end

end Json

end AnswerGateway
