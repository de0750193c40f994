import AnswerGateway.Decimal.Parse
import AnswerGateway.Json.Basic
import AnswerGateway.Text.Small

/-!
Settings that are put together from several sources. They form a tree of tables; a later source
changes the entries that it names and leaves the others. Names are compared by their small letters.
A value remembers where it was found, so that a message can say it; tables that were put together
have no place of their own.
-/

namespace AnswerGateway.Config

/-- A value that has no parts. -/
inductive Scalar where
  | nothing
  | flag (b : Bool)
  | whole (i : Int64)
  | double (x : Float)
  | text (s : String)
  deriving DecidableEq, Repr

inductive Setting where
  | scalar (origin : Option String) (value : Scalar)
  | list (origin : Option String) (items : List Setting)
  | table (origin : Option String) (entries : List (String × Setting))

namespace Setting

/-- A table without entries. -/
def empty : Setting := .table none []

/-- A value that is there but has not been set. -/
def unset : Setting := .scalar none .nothing

/-- The entries of a table; anything else has none. -/
def entries : Setting → List (String × Setting)
  | .table _ entries => entries
  | _ => []

/-- The items of a list; anything else has none. -/
def items : Setting → List Setting
  | .list _ items => items
  | _ => []

/-- Sets an entry; a name that is there keeps its place. -/
def setEntry (name : String) (value : Setting) :
    List (String × Setting) → List (String × Setting)
  | [] => [(name, value)]
  | (n, v) :: rest => if n = name then (n, value) :: rest else (n, v) :: setEntry name value rest

mutual

/-- Puts a value under a name. A table is put in entry by entry, so what it does not name stays.
What was not a table becomes one. -/
def place : Setting → String → Setting → Setting
  | .table _ incoming, name, root =>
    let target := (root.entries.lookup (Text.small name)).getD empty
    .table none (setEntry (Text.small name) (placeAll incoming target) root.entries)
  | .list origin items, name, root =>
    .table none (setEntry (Text.small name) (.list origin items) root.entries)
  | .scalar origin value, name, root =>
    .table none (setEntry (Text.small name) (.scalar origin value) root.entries)

/-- Puts values under their names, one after the other. -/
def placeAll : List (String × Setting) → Setting → Setting
  | [], root => root
  | (name, value) :: rest, root => placeAll rest (place value name root)

end

/-- One step into a tree of settings. A negative index counts from the end. -/
inductive Step where
  | name (name : String)
  | index (index : Int)
  deriving DecidableEq, Repr

/-- The place in a list that an index means; one before the start means the first. -/
def indexIn (index : Int) (length : Nat) : Nat :=
  if 0 ≤ index then index.toNat else length - index.natAbs

/-- Sets an item; a list that is too short is filled up with values that have not been set. -/
def setItem (index : Nat) (value : Setting) (items : List Setting) : List Setting :=
  (items ++ List.replicate (index + 1 - items.length) unset).set index value

/-- Puts a value at the end of a path. What is on the way becomes a table or a list as the path
demands. -/
def placeAt (value : Setting) : List Step → Setting → Setting
  | [], _ => value
  | [.name name], root => place value name root
  | .name name :: rest, root =>
    let key := Text.small name
    let child := (root.entries.lookup key).getD unset
    .table none (setEntry key (placeAt value rest child) root.entries)
  | .index i :: rest, root =>
    let n := indexIn i root.items.length
    let child := (root.items[n]?).getD unset
    .list none (setItem n (placeAt value rest child) root.items)

def isNameChar (c : Char) : Bool := c.isAlphanum || c = ' ' || c = '_' || c = '-'

def leadingName? (cs : List Char) : Option (String × List Char) :=
  match cs.takeWhile isNameChar with
  | [] => none
  | name => some (String.ofList name, cs.dropWhile isNameChar)

/-- The index between brackets. Blanks may stand around it. -/
def indexOf? (cs : List Char) : Option Int :=
  let blank (c : Char) : Bool := c = ' ' || c = '\t'
  let cs := ((cs.dropWhile blank).reverse.dropWhile blank).reverse
  match cs with
  | '+' :: _ => none
  | _ => (Decimal.parseInt64? (String.ofList cs)).map Int64.toInt

/-- The steps behind the first name of a path. Every step takes at least one character. -/
def stepsFrom? : Nat → List Char → Option (List Step)
  | _, [] => some []
  | 0, _ => none
  | fuel + 1, '.' :: rest => do
    let (name, rest) ← leadingName? rest
    return Step.name name :: (← stepsFrom? fuel rest)
  | fuel + 1, '[' :: rest => do
    let index ← indexOf? (rest.takeWhile (· ≠ ']'))
    match rest.dropWhile (· ≠ ']') with
    | ']' :: rest => return Step.index index :: (← stepsFrom? fuel rest)
    | _ => none
  | _, _ => none

/-- A path: names with points between them, and indices in brackets. What is no path is one name. -/
def pathOf (s : String) : List Step :=
  let path? := do
    let (name, rest) ← leadingName? s.toList
    return Step.name name :: (← stepsFrom? rest.length rest)
  path?.getD [.name s]

/-- Puts the entries of a source into a tree, each at the path that its name spells. -/
def layer (entries : List (String × Setting)) (root : Setting) : Setting :=
  entries.foldl (fun root e => placeAt e.2 (pathOf e.1) root) root

mutual

/-- A document as a setting. A whole number beyond 63 bits is a double. -/
def ofJson (origin : String) : Json → Setting
  | .null => .scalar (some origin) .nothing
  | .bool b => .scalar (some origin) (.flag b)
  | .int i =>
    if i.val < 0x8000000000000000 then .scalar (some origin) (.whole (Int64.ofInt i.val))
    else .scalar (some origin) (.double i.val.toNat.toUInt64.toFloat)
  | .double x => .scalar (some origin) (.double x.val)
  | .str s => .scalar (some origin) (.text s)
  | .arr items => .list (some origin) (ofItems origin items)
  | .obj fields => .table (some origin) (ofFields origin fields)

def ofItems (origin : String) : List Json → List Setting
  | [] => []
  | j :: rest => ofJson origin j :: ofItems origin rest

def ofFields (origin : String) : List (String × Json) → List (String × Setting)
  | [] => []
  | (name, j) :: rest => (name, ofJson origin j) :: ofFields origin rest

end

end Setting

end AnswerGateway.Config
