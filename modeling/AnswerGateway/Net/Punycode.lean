/-!
Punycode: a label of a host name written with letters, digits and hyphens only. The basic characters
come first, then the others in the order of their code points, each as its distance from the one
before, in digits whose thresholds follow a bias that adapts to the distances seen so far.
-/

namespace AnswerGateway.Net.Punycode

/-- A digit: the letters stand for 0 to 25, the figures for 26 to 35. -/
def digit (n : Nat) : Char := Char.ofNat (if n < 26 then 0x61 + n else 0x16 + n)

/-- The threshold of the digit at a position, which grows by 36 from digit to digit. -/
def threshold (position bias : Nat) : Nat := min (max (position - bias) 1) 26

theorem threshold_bounds (position bias : Nat) :
    1 ≤ threshold position bias ∧ threshold position bias ≤ 26 := by
  unfold threshold
  omega

/-- A distance in digits. A digit below its threshold is the last one. -/
def digits (bias position distance : Nat) : List Char :=
  let t := threshold position bias
  if distance < t then [digit distance]
  else
    digit (t + (distance - t) % (36 - t)) :: digits bias (position + 36) ((distance - t) / (36 - t))
termination_by distance
decreasing_by
  have _ := threshold_bounds position bias
  have _ := Nat.div_le_self (distance - threshold position bias) (36 - threshold position bias)
  omega

/-- Divides a distance until it is small, and counts the divisions in steps of 36. -/
def shrink (distance bias : Nat) : Nat × Nat :=
  if 455 < distance then shrink (distance / 35) (bias + 36) else (distance, bias)
termination_by distance
decreasing_by exact Nat.div_lt_self (by omega) (by omega)

/-- The bias after a distance, when `written` characters have been written. -/
def adapt (distance written : Nat) (first : Bool) : Nat :=
  let d := if first then distance / 700 else distance / 2
  let (d, bias) := shrink (d + d / written) 0
  bias + 36 * d / (d + 38)

structure Writing where
  out : List Char
  distance : Nat := 0
  bias : Nat := 72
  written : Nat

/-- Passes one character of the label, while the characters with code point `point` are written. -/
def Writing.pass (basic point : Nat) (w : Writing) (c : Char) : Writing :=
  if c.toNat < point then { w with distance := w.distance + 1 }
  else if c.toNat = point then
    { out := w.out ++ digits w.bias 36 w.distance
      distance := 0
      bias := adapt w.distance (w.written + 1) (w.written = basic)
      written := w.written + 1 }
  else w

/-- Writes the characters of the given code points, which are in rising order, none below
`next`. -/
def writePoints (label : List Char) (basic : Nat) : List Nat → Nat → Writing → Writing
  | [], _, w => w
  | point :: rest, next, w =>
    let w := { w with distance := w.distance + (point - next) * (w.written + 1) }
    let w := label.foldl (Writing.pass basic point) w
    writePoints label basic rest (point + 1) { w with distance := w.distance + 1 }

/-- The code points of a list without those that come twice. -/
def distinct : List Nat → List Nat
  | a :: b :: rest => if a = b then distinct (b :: rest) else a :: distinct (b :: rest)
  | points => points

def encode (label : List Char) : List Char :=
  let basic := label.filter (·.toNat < 0x80)
  let points := distinct (((label.filter (0x80 ≤ ·.toNat)).map Char.toNat).mergeSort (· ≤ ·))
  (writePoints label basic.length points 0x80
    { out := if basic.isEmpty then [] else basic ++ ['-'], written := basic.length }).out

end AnswerGateway.Net.Punycode
