import AnswerGateway.Decimal.Layout
import AnswerGateway.Json.Basic
import AnswerGateway.Text.Shown

/-!
Why a document could not be read. A cause is either a fault of the text, which no type of value
could have been read from, or a mismatch between a well-formed value and what was wanted. The two
are answered with different HTTP statuses, so `isSyntax` tells them apart. The wording of every
cause is in `Cause.message` and nowhere else.
-/

namespace AnswerGateway.Json

inductive Unfinished where
  | value | list | object | text
  deriving DecidableEq, Repr

inductive Found where
  | null
  | bool (b : Bool)
  | int (i : Int)
  | double (x : Float)
  | text (s : String)
  | sequence
  | map
  deriving DecidableEq, Repr

/-- Why a document could not be read. -/
inductive Cause where
  | ended (inside : Unfinished)
  | expectedValue
  | expectedIdent
  | expectedColon
  | expectedListComma
  | expectedObjectComma
  | keyNotText
  | trailingComma
  | trailingText
  | badNumber
  | numberOutOfRange
  | badEscape
  | loneSurrogate
  | shortHexEscape
  | badCodePoint
  | controlCharacter
  | tooDeep
  | missingField (name : String)
  | duplicateField (name : String)
  | unknownVariant (name : String) (known : List String)
  | wrongType (found : Found) (wanted : String)
  | wrongValue (found : Found) (wanted : String)
  | wrongLength (length : Nat) (wanted : String)
  | noVariant (name : String)
  deriving DecidableEq, Repr

def Cause.isSyntax : Cause → Bool
  | .missingField _ | .duplicateField _ | .unknownVariant _ _ | .wrongType _ _ | .wrongValue _ _
  | .wrongLength _ _ | .noVariant _ => false
  | _ => true

def ticked (s : String) : String := "\x60" ++ s ++ "\x60"

def Found.describe : Found → String
  | .null => "null"
  | .bool b => "boolean " ++ ticked (if b then "true" else "false")
  | .int i => "integer " ++ ticked (String.ofList (Decimal.intChars i))
  | .double x => "floating point " ++ ticked (String.ofList
      ((Decimal.doubleDocument? x).getD (Decimal.doublePlain x)))
  | .text s => "string " ++ Text.shown s
  | .sequence => "sequence"
  | .map => "map"

def oneOf : List String → String
  | [] => "there are no variants"
  | [a] => "expected " ++ ticked a
  | [a, b] => "expected " ++ ticked a ++ " or " ++ ticked b
  | names => "expected one of " ++ ", ".intercalate (names.map ticked)

/-- The text of a cause, without the place. -/
def Cause.message : Cause → String
  | .ended .value => "EOF while parsing a value"
  | .ended .list => "EOF while parsing a list"
  | .ended .object => "EOF while parsing an object"
  | .ended .text => "EOF while parsing a string"
  | .expectedValue => "expected value"
  | .expectedIdent => "expected ident"
  | .expectedColon => "expected " ++ ticked ":"
  | .expectedListComma => "expected " ++ ticked "," ++ " or " ++ ticked "]"
  | .expectedObjectComma => "expected " ++ ticked "," ++ " or " ++ ticked "\x7d"
  | .keyNotText => "key must be a string"
  | .trailingComma => "trailing comma"
  | .trailingText => "trailing characters"
  | .badNumber => "invalid number"
  | .numberOutOfRange => "number out of range"
  | .badEscape => "invalid escape"
  | .loneSurrogate => "lone leading surrogate in hex escape"
  | .shortHexEscape => "unexpected end of hex escape"
  | .badCodePoint => "invalid unicode code point"
  | .controlCharacter => "control character (\\u0000-\\u001F) found while parsing a string"
  | .tooDeep => "recursion limit exceeded"
  | .missingField name => "missing field " ++ ticked name
  | .duplicateField name => "duplicate field " ++ ticked name
  | .unknownVariant name known => "unknown variant " ++ ticked name ++ ", " ++ oneOf known
  | .wrongType found wanted => "invalid type: " ++ found.describe ++ ", expected " ++ wanted
  | .wrongValue found wanted => "invalid value: " ++ found.describe ++ ", expected " ++ wanted
  | .wrongLength n wanted =>
    "invalid length " ++ String.ofList (Decimal.natChars n) ++ ", expected " ++ wanted
  | .noVariant name => "data did not match any variant of untagged enum " ++ name

def found : Json → Found
  | .null => .null
  | .bool b => .bool b
  | .int i => .int i.val
  | .double x => .double x.val
  | .str s => .text s
  | .arr _ => .sequence
  | .obj _ => .map

end AnswerGateway.Json
