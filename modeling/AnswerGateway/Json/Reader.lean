import AnswerGateway.Json.Numeral
import AnswerGateway.Json.Quoted

/-!
Values in a text. `readAny` keeps the value that comes next, `skipAny` passes over it. A kept value
may be nested 127 deep; a value that is passed over has no such limit, and its numbers may have any
size.
-/

namespace AnswerGateway.Json

open Scan

/-- A reader of values of one type. Its argument is how deep a value may still be nested. -/
abbrev Reader (α : Type) := Nat → Scan α

variable {α : Type}

def depthLimit : Nat := 128

/-- Reads the rest of a word such as `null`. -/
def readWord : List Char → Scan Unit
  | [] => pure ()
  | a :: rest => do
    let c ← get
    if c.atEnd then failHere (.ended .value)
    if c.char? = some a then
      advance
      readWord rest
    else failAhead .expectedIdent

/-- Fails because the value that comes next is not of the wanted type. The value is read first
when it is not a list or an object, and a fault inside it counts first. -/
def refuse (wanted : String) : Scan α := do
  match (← get).char? with
  | some 'n' =>
    advance
    readWord ['u', 'l', 'l']
    failHere (.wrongType .null wanted)
  | some 't' =>
    advance
    readWord ['r', 'u', 'e']
    failHere (.wrongType (.bool true) wanted)
  | some 'f' =>
    advance
    readWord ['a', 'l', 's', 'e']
    failHere (.wrongType (.bool false) wanted)
  | some '"' =>
    advance
    let s ← readQuoted
    failHere (.wrongType (.text s) wanted)
  | some '[' => failHere (.wrongType .sequence wanted)
  | some '\x7b' => failHere (.wrongType .map wanted)
  | some a =>
    if a = '-' ∨ (digit? a).isSome then
      let n ← readNumeral
      failHere (.wrongType n.found wanted)
    else failAhead .expectedValue
  | none => failAhead .expectedValue

/-- The cursor behind a list or an object that could not be read to its end: behind the closing
bracket if that comes next, else behind the blanks and, in a list, a comma. -/
def closeAfterFailure (close : Char) (c : Cursor) : Cursor :=
  let c := c.skip
  if c.char? = some close then c.next
  else if close = ']' ∧ c.char? = some ',' then c.next.skip
  else c

/-- Reads the body of a list or an object and its closing bracket. An open failure of the body is
placed here. -/
def closing (close : Char) (finish : Scan Unit) (body : Scan α) : Scan α := fun c =>
  match body c with
  | .ok (a, c) => (finish c).map fun r => (a, r.2)
  | .error f =>
    match f.spot with
    | .placed _ => .error f
    | .open c => .error { f with spot := .placed (closeAfterFailure close c).here }

def endList : Scan Unit := do
  match ← peekToken with
  | some ']' => advance
  | some ',' =>
    advance
    if (← peekToken) = some ']' then failAhead .trailingComma else failAhead .trailingText
  | _ => if ← isDone then failAhead (.ended .list) else failAhead .trailingText

def endObject : Scan Unit := do
  match ← peekToken with
  | some '\x7d' => advance
  | some ',' => failAhead .trailingComma
  | _ => if ← isDone then failAhead (.ended .object) else failAhead .trailingText

/-- Whether an item follows in a list. The comma before it is taken. -/
def itemFollows (first : Bool) : Scan Bool := do
  let c ← peekToken
  if ← isDone then failAhead (.ended .list)
  if c = some ']' then pure false
  else if first then pure true
  else if c = some ',' then
    advance
    let c ← peekToken
    if ← isDone then failAhead (.ended .value)
    if c = some ']' then failAhead .trailingComma
    pure true
  else failAhead .expectedListComma

/-- Whether a field follows in an object. The comma before it is taken; its name comes next. -/
def fieldFollows (first : Bool) : Scan Bool := do
  let c ← peekToken
  if ← isDone then failAhead (.ended .object)
  if c = some '\x7d' then pure false
  else if first then
    if c = some '"' then pure true else failAhead .keyNotText
  else if c = some ',' then
    advance
    let c ← peekToken
    if ← isDone then failAhead (.ended .value)
    if c = some '"' then pure true
    else if c = some '\x7d' then failAhead .trailingComma
    else failAhead .keyNotText
  else failAhead .expectedObjectComma

def readColon : Scan Unit := do
  let c ← peekToken
  if ← isDone then failAhead (.ended .object)
  if c = some ':' then advance else failAhead .expectedColon

/-- Reads the items that are left in a list; `index` counts those before. Every item takes a
glyph, so the first argument may be any bound on the glyphs left. -/
def readItems (item : Scan α) : Nat → Nat → Scan (List α)
  | 0, _ => failHere (.ended .list)
  | fuel + 1, index => do
    let next ← within (.item index) do
      if ← itemFollows (index == 0) then some <$> item else pure none
    match next with
    | none => pure []
    | some a => (a :: ·) <$> readItems item fuel (index + 1)

def readList (item : Scan α) : Scan (List α) :=
  closing ']' endList fun c => readItems item (c.rest.length + 1) 0 c

def readFields (value : Scan α) : Nat → Bool → Scan (List (String × α))
  | 0, _ => failHere (.ended .object)
  | fuel + 1, first => do
    if ← fieldFollows first then
      advance
      let name ← readQuoted
      let a ← within (.field name) do
        readColon
        value
      ((name, a) :: ·) <$> readFields value fuel false
    else pure []

def readObject (value : Scan α) : Scan (List (String × α)) :=
  closing '\x7d' endObject fun c => readFields value (c.rest.length + 1) true c

/-- Reads one value, given the reader of the values nested in it, if there may be any. -/
def readOne (nested : Option (Scan Json)) : Scan Json := do
  match ← valueAhead with
  | some 'n' =>
    advance
    readWord ['u', 'l', 'l']
    pure .null
  | some 't' =>
    advance
    readWord ['r', 'u', 'e']
    pure (.bool true)
  | some 'f' =>
    advance
    readWord ['a', 'l', 's', 'e']
    pure (.bool false)
  | some '"' =>
    advance
    .str <$> readQuoted
  | some '[' =>
    match nested with
    | none => failAhead .tooDeep
    | some item =>
      advance
      .arr <$> readList item
  | some '\x7b' =>
    match nested with
    | none => failAhead .tooDeep
    | some value =>
      advance
      .obj <$> readObject value
  | some a =>
    if a = '-' ∨ (digit? a).isSome then
      let n ← readNumeral
      pure n.toJson
    else failAhead .expectedValue
  | none => failAhead .expectedValue

/-- Reads any value. Lists and objects may be nested less deep than the argument. -/
def readAny : Reader Json
  | 0 => readOne none
  | depth + 1 => readOne (if depth = 0 then none else some (readAny depth))

inductive Bracket where
  | list | object
  deriving DecidableEq, Repr

def skipName : Scan Unit := do
  let c ← peekToken
  if ← isDone then failAhead (.ended .object)
  if c = some '"' then advance else failAhead .keyNotText
  skipQuoted
  let c ← peekToken
  if ← isDone then failAhead (.ended .object)
  if c = some ':' then advance else failAhead .expectedColon

/-- Passes over the ends of the brackets that close now, the innermost first, up to the next value
inside one of them. The result are the brackets that stay open. `after` tells that a value has just
ended, so that a comma must come before the next one. -/
def skipEnds : List Bracket → Bool → Scan (List Bracket)
  | [], _ => pure []
  | inside :: outer, after => do
    let c ← peekToken
    if ← isDone then
      failAhead (.ended (match inside with | .list => .list | .object => .object))
    if after ∧ c = some ',' then
      advance
      pure (inside :: outer)
    else if (inside = .list ∧ c = some ']') ∨ (inside = .object ∧ c = some '\x7d') then
      advance
      skipEnds outer true
    else if after then
      failAhead (match inside with | .list => .expectedListComma | .object => .expectedObjectComma)
    else pure (inside :: outer)

/-- Passes over a value inside the given brackets, and over everything up to their ends. -/
def skipValues : Nat → List Bracket → Scan Unit
  | 0, _ => failHere (.ended .value)
  | fuel + 1, brackets => do
    let (inside, after) ← (do
      match ← valueAhead with
      | some 'n' =>
        advance
        readWord ['u', 'l', 'l']
        pure (brackets, true)
      | some 't' =>
        advance
        readWord ['r', 'u', 'e']
        pure (brackets, true)
      | some 'f' =>
        advance
        readWord ['a', 'l', 's', 'e']
        pure (brackets, true)
      | some '"' =>
        advance
        skipQuoted
        pure (brackets, true)
      | some '[' =>
        advance
        pure (.list :: brackets, false)
      | some '\x7b' =>
        advance
        pure (.object :: brackets, false)
      | some a =>
        if a = '-' ∨ (digit? a).isSome then
          skipNumeral
          pure (brackets, true)
        else failAhead .expectedValue
      | none => failAhead .expectedValue : Scan (List Bracket × Bool))
    let still ← skipEnds inside after
    match still with
    | [] => pure ()
    | .list :: _ => skipValues fuel still
    | .object :: _ =>
      skipName
      skipValues fuel still

def skipAny : Scan Unit := fun c => skipValues (c.rest.length + 1) [] c

def readText (reader : Reader α) (glyphs : List Text.Glyph) : Except Failure α := do
  let (a, c) ← reader depthLimit (.start glyphs)
  let c := c.skip
  if c.atEnd then .ok a else .error (placedFailure .trailingText c.ahead)

def Failure.place (f : Failure) : Place :=
  match f.spot with
  | .placed place => place
  | .open c => c.here

def Failure.message (f : Failure) : String :=
  let place := f.place
  f.cause.message ++ " at line " ++ String.ofList (Decimal.natChars place.line) ++ " column " ++
    String.ofList (Decimal.natChars place.column)

/-- Reads a text as a document, with the fields of objects sorted. -/
def parse (text : String) : Except Failure Json :=
  canonical <$> readText readAny (Text.glyphsOf text)

end AnswerGateway.Json
