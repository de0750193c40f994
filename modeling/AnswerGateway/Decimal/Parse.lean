import AnswerGateway.Decimal.Nearest

/-!
Numbers in texts that are nothing but a number: no blanks around it, no separators between digits.
A sign may stand in front. A fractional number needs a digit on one side of its point only, and may
be infinite or not a number by name.
-/

namespace AnswerGateway.Decimal

def digitValue? (c : Char) : Option Nat :=
  if '0' ≤ c ∧ c ≤ '9' then some (c.toNat - '0'.toNat) else none

/-- The value of a row of digits, of which there is at least one. -/
def naturalOf? (cs : List Char) : Option Nat :=
  if cs.isEmpty then none
  else cs.foldl (fun n c => do return (← n) * 10 + (← digitValue? c)) (some 0)

/-- Takes a sign off: whether it is a minus sign, and what follows. -/
def signed : List Char → Bool × List Char
  | '-' :: rest => (true, rest)
  | '+' :: rest => (false, rest)
  | cs => (false, cs)

def parseInt64? (s : String) : Option Int64 := do
  let (negative, cs) := signed s.toList
  let n ← naturalOf? cs
  let i : Int := if negative then -n else n
  if -0x8000000000000000 ≤ i ∧ i < 0x8000000000000000 then some (Int64.ofInt i) else none

/-- A natural number of 64 bits. A minus sign is not accepted, not even in front of zero. -/
def parseWord64? (s : String) : Option UInt64 := do
  let (negative, cs) := signed s.toList
  if negative then none
  let n ← naturalOf? cs
  if n < 0x10000000000000000 then some n.toUInt64 else none

def leadingDigits (cs : List Char) : List Char × List Char :=
  (cs.takeWhile fun c => (digitValue? c).isSome, cs.dropWhile fun c => (digitValue? c).isSome)

/-- The exponent at the end of a number: zero if there is none. -/
def exponentOf? : List Char → Option Int
  | [] => some 0
  | c :: rest =>
    if c = 'e' ∨ c = 'E' then do
      let (negative, cs) := signed rest
      let n ← naturalOf? cs
      some (if negative then -n else n)
    else none

/-- A number with a point or an exponent, without its sign. -/
def magnitudeOf? (cs : List Char) : Option Float := do
  let (whole, rest) := leadingDigits cs
  let (fraction, rest) := match rest with
    | '.' :: rest => leadingDigits rest
    | rest => ([], rest)
  let digits ← naturalOf? (whole ++ fraction)
  let exponent ← exponentOf? rest
  some (nearestDouble digits (exponent - fraction.length))

def namedNumber? (cs : List Char) : Option Float :=
  let name := String.ofList (cs.map Char.toLower)
  if name = "inf" ∨ name = "infinity" then some (1.0 / 0.0)
  else if name = "nan" then some (0.0 / 0.0)
  else none

def parseDouble? (s : String) : Option Float := do
  let (negative, cs) := signed s.toList
  let x ← (namedNumber? cs).orElse fun _ => magnitudeOf? cs
  some (if negative then -x else x)

end AnswerGateway.Decimal
