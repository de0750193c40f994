import AnswerGateway.Text.Digit

/-!
Paths as metric labels. Every distinct label costs memory, so what identifies a single thing is
replaced by a placeholder: first every UUID in lower case, then every segment of digits, and what is
left is cut to fifty characters.
-/

namespace AnswerGateway.Metrics

def placeholder : List Char := ['\x7b', 'i', 'd', '\x7d']

def isLowerHex (c : Char) : Bool := ('0' ≤ c && c ≤ '9') || ('a' ≤ c && c ≤ 'f')

/-- What is left behind `n` lower-case hexadecimal digits. -/
def behindHex : Nat → List Char → Option (List Char)
  | 0, cs => some cs
  | n + 1, c :: cs => if isLowerHex c then behindHex n cs else none
  | _ + 1, [] => none

/-- What is left behind a hyphen and `n` lower-case hexadecimal digits. -/
def behindHyphenHex (n : Nat) : List Char → Option (List Char)
  | '-' :: cs => behindHex n cs
  | _ => none

def behindUuid (cs : List Char) : Option (List Char) := do
  let cs ← behindHex 8 cs
  let cs ← behindHyphenHex 4 cs
  let cs ← behindHyphenHex 4 cs
  let cs ← behindHyphenHex 4 cs
  behindHyphenHex 12 cs

/-- Replaces every UUID, from left to right. `skip` characters still belong to the one before. -/
def replaceUuids : List Char → Nat → List Char
  | [], _ => []
  | _ :: rest, skip + 1 => replaceUuids rest skip
  | c :: rest, 0 =>
    match behindUuid (c :: rest) with
    | some _ => placeholder ++ replaceUuids rest 35
    | none => c :: replaceUuids rest 0

/-- The number of digits of a segment that holds nothing else, at its start; the slash that ends
the segment, if there is one, is counted too. -/
def digitSegment (cs : List Char) : Option Nat :=
  let ds := cs.takeWhile Text.isDecimalDigit
  if ds.isEmpty then none
  else
    match cs.drop ds.length with
    | [] => some ds.length
    | '/' :: _ => some (ds.length + 1)
    | _ => none

/-- Replaces segments of digits, from left to right. A replaced segment takes the slash behind it
along, so of two such segments in a row the second is not found. `skip` characters still belong to
the one before. -/
def replaceNumbers : List Char → Nat → List Char
  | [], _ => []
  | c :: rest, skip + 1 =>
    if skip = 0 ∧ c = '/' then '/' :: replaceNumbers rest 0 else replaceNumbers rest skip
  | c :: rest, 0 =>
    if c = '/' then
      match digitSegment rest with
      | some n => '/' :: placeholder ++ replaceNumbers rest n
      | none => c :: replaceNumbers rest 0
    else c :: replaceNumbers rest 0

def labelLimit : Nat := 50

def pathPattern (path : String) : List Char := replaceNumbers (replaceUuids path.toList 0) 0

def pathLabel (path : String) : String := String.ofList ((pathPattern path).take labelLimit)

end AnswerGateway.Metrics
