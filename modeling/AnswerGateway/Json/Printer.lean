import AnswerGateway.Decimal.Layout
import AnswerGateway.Json.Basic

/-!
Documents as compact text. The pieces in `JsonText` (`quote`, `list`, `object`) are shared by every
type that writes itself as JSON in the order of its own fields, and by `Json.print`, which writes
any document.
-/

namespace AnswerGateway.JsonText

def hexDigit (n : Nat) : Char := Nat.digitChar (n % 16)

/-- The spelling of a character within quotes. Quotes, backslashes and control characters are
escaped, the common ones by a letter; every other character stands for itself. -/
def escape (c : Char) : List Char :=
  if c = '"' then ['\\', '"']
  else if c = '\\' then ['\\', '\\']
  else if c = '\x08' then ['\\', 'b']
  else if c = '\x0c' then ['\\', 'f']
  else if c = '\n' then ['\\', 'n']
  else if c = '\r' then ['\\', 'r']
  else if c = '\t' then ['\\', 't']
  else if c.toNat < 0x20 then ['\\', 'u', '0', '0', hexDigit (c.toNat / 16), hexDigit c.toNat]
  else [c]

def quote (s : String) : List Char := '"' :: s.toList.flatMap escape ++ ['"']

def commas : List (List Char) → List Char
  | [] => []
  | [x] => x
  | x :: rest => x ++ ',' :: commas rest

def list (items : List (List Char)) : List Char := '[' :: commas items ++ [']']

/-- An object whose values are already written, in the given order. -/
def object (fields : List (String × List Char)) : List Char :=
  '\x7b' :: commas (fields.map fun f => quote f.1 ++ ':' :: f.2) ++ ['\x7d']

def literalNull : List Char := ['n', 'u', 'l', 'l']

def literalTrue : List Char := ['t', 'r', 'u', 'e']

def literalFalse : List Char := ['f', 'a', 'l', 's', 'e']

def truth (b : Bool) : List Char := if b then literalTrue else literalFalse

def natural (n : Nat) : List Char := Decimal.natChars n

def whole (i : Int) : List Char := Decimal.intChars i

/-- A single-precision number by its shortest digits; null where there are none. -/
def single (x : Float32) : List Char := (Decimal.singleDocument? x).getD literalNull

/-- A double-precision number by its shortest digits; null where there are none. -/
def double (x : Float) : List Char := (Decimal.doubleDocument? x).getD literalNull

end AnswerGateway.JsonText

namespace AnswerGateway.Json

open JsonText

mutual

def chars : Json → List Char
  | .null => literalNull
  | .bool b => truth b
  | .int i => whole i.val
  | .double x => JsonText.double x.val
  | .str s => quote s
  | .arr items => list (charsOfItems items)
  | .obj fields => object (charsOfFields fields)

def charsOfItems : List Json → List (List Char)
  | [] => []
  | j :: rest => j.chars :: charsOfItems rest

def charsOfFields : List (String × Json) → List (String × List Char)
  | [] => []
  | (name, j) :: rest => (name, j.chars) :: charsOfFields rest

end

def print (j : Json) : String := String.ofList j.chars

end AnswerGateway.Json
