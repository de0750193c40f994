import AnswerGateway.Json.Format

/-!
Reading typed values from a document that has already been read. The fields of an object are taken
in the order of the object, which is sorted in a canonical document, so of two faults the one with
the smaller name is reported. There are no places in the messages.
-/

namespace AnswerGateway.Json

variable {α β : Type}

abbrev FromJson (α : Type) := Json → Except Cause α

def mismatch (j : Json) (wanted : String) : Except Cause α := .error (.wrongType j.found wanted)

def toText : FromJson String
  | .str s => .ok s
  | j => mismatch j "a string"

def toFlag : FromJson Bool
  | .bool b => .ok b
  | j => mismatch j "a boolean"

def toNumeral (wanted : String) : FromJson Numeral
  | .int i => .ok (.ofInteger i)
  | .double x => .ok (.double x.val)
  | j => mismatch j wanted

def toOptional (value : FromJson α) : FromJson (Option α)
  | .null => .ok none
  | j => some <$> value j

def toListOf (value : FromJson α) : FromJson (List α)
  | .arr items => items.mapM value
  | j => mismatch j "a sequence"

/-- One of several names, alone or as the one field of an object whose value is null. -/
def toChoice (options : List (String × α)) : FromJson α
  | .str name => pickNamed name
  | .obj [(name, j)] => do
    let a ← pickNamed name
    match j with
    | .null => .ok a
    | j => mismatch j "unit"
  | .obj _ => .error (.wrongValue .map "map with a single key")
  | j => mismatch j "string or map"
where
  pickNamed (name : String) : Except Cause α :=
    match options.lookup name with
    | some a => .ok a
    | none => .error (.unknownVariant name (options.map Prod.fst))

def recordOfFields (fields : List (Field FromJson α)) :
    List (String × Json) → List String → α → Except Cause α
  | [], seen, a =>
    match firstMissing fields seen with
    | some name => .error (.missingField name)
    | none => .ok a
  | (name, j) :: rest, seen, a =>
    match fields.find? (·.name == name) with
    | some f =>
      if seen.contains name then .error (.duplicateField name)
      else
        match f.change j with
        | .ok change => recordOfFields fields rest (name :: seen) (change a)
        | .error cause => .error cause
    | none => recordOfFields fields rest seen a

/-- Reads the items of a list into a record; `total` is the length of the whole list. -/
def recordOfItems (wanted : String) (total : Nat) :
    List (Field FromJson α) → List Json → Nat → α → Except Cause α
  | [], [], _, a => .ok a
  | [], _ :: _, _, _ => .error (.wrongLength total "fewer elements in array")
  | f :: fields, j :: items, index, a =>
    match f.change j with
    | .ok change => recordOfItems wanted total fields items (index + 1) (change a)
    | .error cause => .error cause
  | f :: fields, [], index, a =>
    if f.absence = .defaulted then recordOfItems wanted total fields [] (index + 1) a
    else .error (.wrongLength index wanted)

def toRecord (name : String) (start : α) (fields : List (Field FromJson α)) : FromJson α
  | .obj pairs => recordOfFields fields pairs [] start
  | .arr items => recordOfItems (recordLength name fields.length) items.length fields items 0 start
  | j => mismatch j (recordName name)

instance : Format FromJson where
  map f value := fun j => f <$> value j
  text := toText
  flag := toFlag
  unsigned name bits := fun j => toNumeral name j >>= Numeral.unsigned? name bits
  signed := fun j => toNumeral "i64" j >>= Numeral.signed?
  single := fun j => Numeral.toSingle <$> toNumeral "f32" j
  double := fun j => Numeral.toDouble <$> toNumeral "f64" j
  optional := toOptional
  list := toListOf
  choice _ options := toChoice options
  record := toRecord

end AnswerGateway.Json
