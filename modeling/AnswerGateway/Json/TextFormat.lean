import AnswerGateway.Json.Format

/-!
Reading typed values straight from a text. Nothing is kept that was not asked for, and the first
fault in the order of the text is the one that is reported.
-/

namespace AnswerGateway.Json

open Scan

variable {α β : Type}

/-- Demands a value and reads it as a text; `wanted` names the text in a refusal. -/
def readName (wanted : String) : Scan String := do
  if (← valueAhead) = some '"' then
    advance
    readQuoted
  else refuse wanted

def readFlag : Scan Bool := do
  match ← valueAhead with
  | some 't' =>
    advance
    readWord ['r', 'u', 'e']
    pure true
  | some 'f' =>
    advance
    readWord ['a', 'l', 's', 'e']
    pure false
  | _ => refuse "a boolean"

def readNumber (wanted : String) : Scan Numeral := do
  match ← valueAhead with
  | some a => if a = '-' ∨ (digit? a).isSome then readNumeral else refuse wanted
  | none => refuse wanted

def orFail : Except Cause α → Scan α
  | .ok a => pure a
  | .error cause => failHere cause

def readOptional (reader : Reader α) : Reader (Option α) := fun depth => do
  if (← peekToken) = some 'n' then
    advance
    readWord ['u', 'l', 'l']
    pure none
  else some <$> reader depth

def deeper (depth : Nat) : Scan Nat := if depth ≤ 1 then failAhead .tooDeep else pure (depth - 1)

def readListOf (reader : Reader α) : Reader (List α) := fun depth => do
  if (← valueAhead) = some '[' then
    let inner ← deeper depth
    advance
    readList (reader inner)
  else refuse "a sequence"

def pick (options : List (String × α)) (name : String) : Except Cause α :=
  match options.lookup name with
  | some a => .ok a
  | none => .error (.unknownVariant name (options.map Prod.fst))

def readUnit : Scan Unit := do
  if (← valueAhead) = some 'n' then
    advance
    readWord ['u', 'l', 'l']
  else refuse "unit"

/-- Reads one of several names, alone or as the one field of an object whose value is null. -/
def readChoice (options : List (String × α)) : Reader α := fun depth => do
  match ← valueAhead with
  | some '"' =>
    let name ← readName "variant identifier"
    orFail (pick options name)
  | some '\x7b' =>
    let _ ← deeper depth
    advance
    let name ← readName "variant identifier"
    let a ← orFail (pick options name)
    readColon
    within (.variant name) readUnit
    if (← peekToken) = some '\x7d' then
      advance
      pure a
    else if ← isDone then failHere (.ended .object)
    else failHere .expectedValue
  | _ => failAhead .expectedValue

/-- Reads a record from the fields of an object, from the start value on. `seen` are the names of
the fields that have been read. -/
def readRecordFields (fields : List (Field Reader α)) (depth : Nat) :
    Nat → Bool → List String → α → Scan α
  | 0, _, _, _ => failHere (.ended .object)
  | fuel + 1, first, seen, a => do
    if ← fieldFollows first then
      advance
      let name ← readQuoted
      match fields.find? (·.name == name) with
      | some f =>
        if seen.contains name then failOpen (.duplicateField name)
        let change ← within (.field name) do
          readColon
          f.change depth
        readRecordFields fields depth fuel false (name :: seen) (change a)
      | none =>
        within (.field name) do
          readColon
          skipAny
        readRecordFields fields depth fuel false seen a
    else
      match firstMissing fields seen with
      | some name => failOpen (.missingField name)
      | none => pure a

def readRecordItems (wanted : String) (depth : Nat) :
    List (Field Reader α) → Nat → α → Scan α
  | [], _, a => pure a
  | f :: rest, index, a => do
    let change ← within (.item index) do
      if ← itemFollows (index == 0) then some <$> f.change depth else pure none
    match change with
    | some g => readRecordItems wanted depth rest (index + 1) (g a)
    | none =>
      if f.absence = .defaulted then readRecordItems wanted depth rest (index + 1) a
      else failOpen (.wrongLength index wanted)

def readRecord (name : String) (start : α) (fields : List (Field Reader α)) : Reader α :=
  fun depth => do
    match ← valueAhead with
    | some '\x7b' =>
      let inner ← deeper depth
      advance
      closing '\x7d' endObject fun c =>
        readRecordFields fields inner (c.rest.length + 1) true [] start c
    | some '[' =>
      let inner ← deeper depth
      advance
      closing ']' endList (readRecordItems (recordLength name fields.length) inner fields 0 start)
    | _ => refuse (recordName name)

instance : Format Reader where
  map f reader := fun depth => f <$> reader depth
  text := fun _ => readName "a string"
  flag := fun _ => readFlag
  unsigned name bits := fun _ => do
    let n ← readNumber name
    orFail (n.unsigned? name bits)
  signed := fun _ => do
    let n ← readNumber "i64"
    orFail n.signed?
  single := fun _ => Numeral.toSingle <$> readNumber "f32"
  double := fun _ => Numeral.toDouble <$> readNumber "f64"
  optional := readOptional
  list := readListOf
  choice _ options := readChoice options
  record := readRecord

def readUntagged (name : String) (make : Json → Option α) : Reader α := fun depth => do
  let j ← readAny depth
  match make j with
  | some a => pure a
  | none => failOpen (.noVariant name)

def decodeText (reader : Reader α) (text : String) : Except Failure α :=
  readText reader (Text.glyphsOf text)

end AnswerGateway.Json
