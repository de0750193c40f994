import AnswerGateway.Json.Reader

/-!
How a type is written as a document, said once for every kind of source. A `Format` knows texts,
numbers, choices and records; a type describes itself by them, and the description can then be read
from a text (`Reader`), from a document (`FromJson`) or from layered settings. A record may also be
written as a list of its fields in their order. Fields that no record has are passed over.
-/

namespace AnswerGateway.Json

inductive Absence where
  | required
  /-- The field may be left out of an object, but not of a list. -/
  | nullable
  | defaulted
  deriving DecidableEq, Repr

/-- A field of a record of type `α`: reading it gives the change that it makes to the record. -/
structure Field (D : Type → Type) (α : Type) where
  name : String
  absence : Absence
  change : D (α → α)

class Format (D : Type → Type) where
  map {α β : Type} : (α → β) → D α → D β
  text : D String
  flag : D Bool
  /-- A natural number of that many bits, by the name of its type. -/
  unsigned (name : String) (bits : Nat) : D Nat
  signed : D Int
  single : D Float32
  double : D Float
  optional {α : Type} : D α → D (Option α)
  list {α : Type} : D α → D (List α)
  choice {α : Type} (name : String) (options : List (String × α)) : D α
  /-- A record by its name, its start value and its fields. -/
  record {α : Type} (name : String) (start : α) (fields : List (Field D α)) : D α

namespace Format

variable {D : Type → Type} [Format D] {α β : Type}

def word16 : D UInt16 := map UInt16.ofNat (unsigned "u16" 16)

def word32 : D UInt32 := map UInt32.ofNat (unsigned "u32" 32)

def word64 : D UInt64 := map UInt64.ofNat (unsigned "u64" 64)

def size : D UInt64 := map UInt64.ofNat (unsigned "usize" 64)

def int64 : D Int64 := map Int64.ofInt signed

def required (name : String) (value : D β) (set : β → α → α) : Field D α :=
  ⟨name, .required, map set value⟩

def nullable (name : String) (value : D β) (set : Option β → α → α) : Field D α :=
  ⟨name, .nullable, map set (optional value)⟩

/-- A field that may be null, and keeps its default when it is absent. -/
def nullableDefaulted (name : String) (value : D β) (set : Option β → α → α) : Field D α :=
  ⟨name, .defaulted, map set (optional value)⟩

def defaulted (name : String) (value : D β) (set : β → α → α) : Field D α :=
  ⟨name, .defaulted, map set value⟩

end Format

def recordName (name : String) : String := "struct " ++ name

def recordLength (name : String) (count : Nat) : String :=
  recordName name ++ " with " ++ String.ofList (Decimal.natChars count) ++
    (if count = 1 then " element" else " elements")

/-- The first field that must be there and is not among the given names. -/
def firstMissing {D : Type → Type} {α : Type} (fields : List (Field D α)) (seen : List String) :
    Option String :=
  (fields.find? fun f => f.absence = .required && !seen.contains f.name).map Field.name

end AnswerGateway.Json
