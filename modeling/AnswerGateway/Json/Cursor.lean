import AnswerGateway.Json.Cause
import AnswerGateway.Text.Utf8

/-!
A position in a text that is being read, and the failures that stop the reading. Columns count
bytes, so a failure can be found with any tool that counts bytes. A failure may still be open: it
has a cause but no place yet, and takes the place where the innermost enclosing list or object
ends or goes on.
-/

namespace AnswerGateway.Json

open Text (Glyph)

/-- A line, counted from one, and the number of bytes before the place in that line. -/
structure Place where
  line : Nat
  column : Nat
  deriving DecidableEq, Repr

structure Cursor where
  rest : List Glyph
  line : Nat
  column : Nat
  deriving DecidableEq, Repr

inductive PathStep where
  | field (name : String)
  | item (index : Nat)
  | variant (name : String)
  deriving DecidableEq, Repr

inductive Spot where
  | placed (place : Place)
  | open (cursor : Cursor)
  deriving DecidableEq, Repr

/-- A failure to read: its cause, the path of the part that was being read, and where it is. -/
structure Failure where
  cause : Cause
  path : List PathStep
  spot : Spot
  deriving DecidableEq, Repr

namespace Cursor

def start (glyphs : List Glyph) : Cursor := ⟨glyphs, 1, 0⟩

def here (c : Cursor) : Place := ⟨c.line, c.column⟩

def ahead (c : Cursor) : Place :=
  match c.rest with
  | [] => c.here
  | .char '\n' :: _ => ⟨c.line + 1, 0⟩
  | _ :: _ => ⟨c.line, c.column + 1⟩

def next (c : Cursor) : Cursor :=
  match c.rest with
  | [] => c
  | .char '\n' :: rest => ⟨rest, c.line + 1, 0⟩
  | g :: rest => ⟨rest, c.line, c.column + g.size⟩

def char? (c : Cursor) : Option Char :=
  match c.rest with
  | .char a :: _ => some a
  | _ => none

def atEnd (c : Cursor) : Bool := c.rest.isEmpty

def skipFrom : List Glyph → Nat → Nat → Cursor
  | .char ' ' :: rest, line, column => skipFrom rest line (column + 1)
  | .char '\t' :: rest, line, column => skipFrom rest line (column + 1)
  | .char '\r' :: rest, line, column => skipFrom rest line (column + 1)
  | .char '\n' :: rest, line, _ => skipFrom rest (line + 1) 0
  | rest, line, column => ⟨rest, line, column⟩

/-- The cursor behind the blanks that come next. Spaces, tabs and line ends are blanks here. -/
def skip (c : Cursor) : Cursor := skipFrom c.rest c.line c.column

/-- The place after `n` more bytes, if there are that many. -/
def afterBytes : Nat → List Glyph → Place → Option Place
  | 0, _, place => some place
  | _ + 1, [], _ => none
  | n + 1, .char '\n' :: rest, place => afterBytes n rest ⟨place.line + 1, 0⟩
  | n + 1, g :: rest, place =>
    if g.size ≤ n + 1 then afterBytes (n + 1 - g.size) rest ⟨place.line, place.column + g.size⟩
    else some ⟨place.line, place.column + n + 1⟩
  termination_by _ rest _ => rest.length

def endPlace : List Glyph → Place → Place
  | [], place => place
  | .char '\n' :: rest, place => endPlace rest ⟨place.line + 1, 0⟩
  | g :: rest, place => endPlace rest ⟨place.line, place.column + g.size⟩

end Cursor

/-- A step of reading: from a cursor to a value and the cursor behind it. -/
abbrev Scan (α : Type) := StateT Cursor (Except Failure) α

namespace Scan

variable {α : Type}

def failAt (cause : Cause) (place : Place) : Scan α := fun _ => .error ⟨cause, [], .placed place⟩

def failHere (cause : Cause) : Scan α := fun c => .error ⟨cause, [], .placed c.here⟩

def failAhead (cause : Cause) : Scan α := fun c => .error ⟨cause, [], .placed c.ahead⟩

/-- Fails without a place. -/
def failOpen (cause : Cause) : Scan α := fun c => .error ⟨cause, [], .open c⟩

def peekToken : Scan (Option Char) := fun c => .ok (c.skip.char?, c.skip)

def isDone : Scan Bool := fun c => .ok (c.atEnd, c)

def advance : Scan Unit := fun c => .ok ((), c.next)

/-- Reads a part; failures inside it carry the step that leads to it. -/
def within (step : PathStep) (part : Scan α) : Scan α := fun c =>
  match part c with
  | .ok r => .ok r
  | .error f => .error { f with path := step :: f.path }

def valueAhead : Scan (Option Char) := do
  let c ← peekToken
  if ← isDone then failAhead (.ended .value) else pure c

end Scan

end AnswerGateway.Json
