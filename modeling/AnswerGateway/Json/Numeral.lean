import AnswerGateway.Json.Cursor

/-!
Numbers in a text. A numeral without a fraction or an exponent that fits 64 bits is a whole
number; every other numeral is a double. The value of a double is its first digits that fit 64
bits, as a double, times or divided by a power of ten, so it is exact for short numerals and may be
off by one place for very long ones. A numeral too large for a double is an error, one too small
is zero.
-/

namespace AnswerGateway.Json

open Text (Glyph)
open Scan

inductive Numeral where
  | natural (n : Nat)
  | negative (i : Int)
  | double (x : Float)
  deriving DecidableEq, Repr

def Numeral.found : Numeral → Found
  | .natural n => .int n
  | .negative i => .int i
  | .double x => .double x

def Numeral.ofInteger (i : Integer) : Numeral :=
  if 0 ≤ i.val then .natural i.val.toNat else .negative i.val

def Numeral.toJson : Numeral → Json
  | .natural n => Json.ofNat n
  | .negative i => (Integer.ofInt? i).elim (Json.ofFloat (Float.ofInt i)) Json.int
  | .double x => Json.ofFloat x

/-- A numeral as a natural number below `2^bits`. -/
def Numeral.unsigned? (wanted : String) (bits : Nat) : Numeral → Except Cause Nat
  | .natural n => if n < Nat.pow 2 bits then .ok n else .error (.wrongValue (.int n) wanted)
  | .negative i => .error (.wrongValue (.int i) wanted)
  | .double x => .error (.wrongType (.double x) wanted)

def Numeral.signed? : Numeral → Except Cause Int
  | .natural n => if n < 0x8000000000000000 then .ok n else .error (.wrongValue (.int n) "i64")
  | .negative i => .ok i
  | .double x => .error (.wrongType (.double x) "i64")

/-- The single-precision number nearest to a numeral. A double is rounded once more. -/
def Numeral.toSingle : Numeral → Float32
  | .natural n => n.toUInt64.toFloat32
  | .negative i => -i.natAbs.toUInt64.toFloat32
  | .double x => x.toFloat32

def Numeral.toDouble : Numeral → Float
  | .natural n => n.toUInt64.toFloat
  | .negative i => -i.natAbs.toUInt64.toFloat
  | .double x => x

def digit? (c : Char) : Option Nat :=
  if '0' ≤ c ∧ c ≤ '9' then some (c.toNat - '0'.toNat) else none

def digitAhead (c : Cursor) : Option Nat := c.char?.bind digit?

/-- The digits that come next, the last one first, in front of those in `done`. -/
def digitsFrom : List Glyph → Nat → Nat → List Nat → List Nat × Cursor
  | .char a :: rest, line, column, done =>
    match digit? a with
    | some d => digitsFrom rest line (column + 1) (d :: done)
    | none => (done, ⟨.char a :: rest, line, column⟩)
  | rest, line, column, done => (done, ⟨rest, line, column⟩)

def digits : Scan (List Nat) := fun c =>
  let r := digitsFrom c.rest c.line c.column []
  .ok (r.1.reverse, r.2)

/-- The leading digits of a numeral that fit 64 bits, with the power of ten they stand for. -/
structure Significand where
  value : Nat
  exponent : Int
  deriving DecidableEq, Repr

def wordLimit : Nat := 0x10000000000000000

/-- Takes the digits before the point. From the first digit that does not fit, digits only count. -/
def Significand.ofWhole (ds : List Nat) : Significand × Bool :=
  ds.foldl (fun (s, full) d =>
    if full || wordLimit ≤ s.value * 10 + d then (⟨s.value, s.exponent + 1⟩, true)
    else (⟨s.value * 10 + d, s.exponent⟩, false)) (⟨0, 0⟩, false)

/-- Takes the digits after the point up to the first that does not fit. -/
def Significand.addFraction (s : Significand) : List Nat → Significand
  | [] => s
  | d :: rest =>
    if wordLimit ≤ s.value * 10 + d then s
    else Significand.addFraction ⟨s.value * 10 + d, s.exponent - 1⟩ rest

def powerOfTen (n : Nat) : Float := Float.ofScientific 1 false n

/-- Scales a double by a power of ten; `none` when the result is too large. -/
def scale : Nat → Float → Int → Option Float
  | 0, x, _ => some x
  | fuel + 1, x, e =>
    if e.natAbs ≤ 308 then
      if 0 ≤ e then
        let y := x * powerOfTen e.toNat
        if y.isInf then none else some y
      else some (x / powerOfTen e.natAbs)
    else if x == 0.0 then some x
    else if 0 ≤ e then none
    else scale fuel (x / powerOfTen 308) (e + 308)

/-- The value of a numeral with a fraction or an exponent. Four steps bring any 64-bit number
below the smallest double. -/
def Significand.toDouble (s : Significand) (negative : Bool) : Option Float :=
  (scale 4 s.value.toUInt64.toFloat s.exponent).map fun x => if negative then -x else x

/-- The value of a numeral without a fraction or an exponent. -/
def wholeNumeral (negative : Bool) (n : Nat) : Numeral :=
  if !negative then .natural n
  else if 0 < n && n ≤ 0x8000000000000000 then .negative (-n)
  else .double (-n.toUInt64.toFloat)

/-- The largest exponent that is kept; longer ones mean infinity or zero. -/
def exponentLimit : Nat := 0x80000000

/-- The digits of an exponent up to the one with which it passes the limit. -/
def exponentOf : List Nat → Nat → Nat → Nat × Option Nat
  | [], e, _ => (e, none)
  | d :: rest, e, taken =>
    if exponentLimit ≤ e * 10 + d then (e, some (taken + 1))
    else exponentOf rest (e * 10 + d) (taken + 1)

/-- Reads the digits of an exponent, behind its mark, and gives the double. -/
def readExponent (negative : Bool) (s : Significand) : Scan Numeral := do
  advance
  let sign ← fun c => .ok (c.char?, c)
  let down := sign == some '-'
  if sign == some '+' || down then advance
  let before ← get
  if before.atEnd then failHere (.ended .value)
  if (digitAhead before).isNone then failAhead .badNumber
  let ds ← digits
  match exponentOf ds 0 0 with
  | (_, some taken) =>
    if s.value != 0 && !down then failAt .numberOutOfRange ⟨before.line, before.column + taken⟩
    else pure (.double (if negative then -0.0 else 0.0))
  | (e, none) =>
    let scale := if down then s.exponent - e else s.exponent + e
    match (Significand.mk s.value scale).toDouble negative with
    | some x => pure (.double x)
    | none => failHere .numberOutOfRange

def readFraction (negative : Bool) (s : Significand) (full : Bool) : Scan Numeral := do
  let finish (s : Significand) : Scan Numeral :=
    match s.toDouble negative with
    | some x => pure (.double x)
    | none => failHere .numberOutOfRange
  match (← get).char? with
  | some '.' =>
    advance
    let before ← get
    if before.atEnd then failAhead (.ended .value)
    if (digitAhead before).isNone then failAhead .badNumber
    let ds ← digits
    let s := s.addFraction ds
    match (← get).char? with
    | some 'e' | some 'E' => readExponent negative s
    | _ => finish s
  | some 'e' | some 'E' => readExponent negative s
  | _ => if full then finish s else pure (wholeNumeral negative s.value)

def readMagnitude (negative : Bool) : Scan Numeral := do
  let c ← get
  if c.atEnd then failHere (.ended .value)
  match digitAhead c with
  | none => failAhead .badNumber
  | some 0 =>
    advance
    if (digitAhead (← get)).isSome then failAhead .badNumber
    readFraction negative ⟨0, 0⟩ false
  | some _ =>
    let ds ← digits
    let (s, full) := Significand.ofWhole ds
    readFraction negative s full

/-- Reads a numeral. A minus sign or a digit comes next. -/
def readNumeral : Scan Numeral := do
  match (← get).char? with
  | some '-' =>
    advance
    readMagnitude true
  | _ => readMagnitude false

def skipExponent : Scan Unit := do
  advance
  let sign ← fun c => .ok (c.char?, c)
  if sign == some '+' || sign == some '-' then advance
  if (digitAhead (← get)).isNone then failAhead .badNumber
  let _ ← digits

def skipNumeral : Scan Unit := do
  if (← get).char? == some '-' then advance
  match digitAhead (← get) with
  | none => failAhead .badNumber
  | some 0 =>
    advance
    if (digitAhead (← get)).isSome then failAhead .badNumber
  | some _ =>
    let _ ← digits
  match (← get).char? with
  | some '.' =>
    advance
    if (digitAhead (← get)).isNone then failAhead .badNumber
    let _ ← digits
    match (← get).char? with
    | some 'e' | some 'E' => skipExponent
    | _ => pure ()
  | some 'e' | some 'E' => skipExponent
  | _ => pure ()

end AnswerGateway.Json
