/-!
The fewest decimal digits that read back as a given binary floating-point number. A finite number
is `m * 2^q`; the reals that round to it form an interval around it, closed when `m` is even. On
each decimal grid, from coarse to fine, the two grid points next to the number are tried, and the
first grid with a point in the interval wins. All arithmetic is on natural numbers, so nothing is
rounded on the way.
-/

namespace AnswerGateway.Decimal

/-- The magnitude `m * 2^q` of a finite binary number. `tight` holds when the next smaller number
is half as far away as the next larger one, which happens at powers of two. -/
structure Magnitude where
  m : Nat
  q : Int
  tight : Bool
  deriving DecidableEq, Repr

/-- The number `digits * 10^exponent`. -/
structure Digits where
  digits : Nat
  exponent : Int
  deriving DecidableEq, Repr

/-- A magnitude with its interval on a common scale: the number is `value / scale`, and the reals
that round to it lie between `low / scale` and `high / scale`. -/
structure Interval where
  value : Nat
  low : Nat
  high : Nat
  scale : Nat
  closed : Bool

/-- The interval of the reals that round to a magnitude, in quarters of its last place. -/
def Magnitude.interval (x : Magnitude) : Interval :=
  let quarter := x.q - 2
  let up := Nat.pow 2 quarter.toNat
  { value := 4 * x.m * up
    low := (4 * x.m - if x.tight then 1 else 2) * up
    high := (4 * x.m + 2) * up
    scale := Nat.pow 2 (-quarter).toNat
    closed := x.m % 2 == 0 }

/-- The interval in units of `10^e`. -/
def Interval.inUnits (i : Interval) (e : Int) : Interval :=
  let up := Nat.pow 10 (-e).toNat
  { i with
    value := i.value * up
    low := i.low * up
    high := i.high * up
    scale := i.scale * Nat.pow 10 e.toNat }

/-- Whether the whole number `n` lies in the interval. -/
def Interval.holds (i : Interval) (n : Nat) : Bool :=
  if i.closed then i.low ≤ n * i.scale && n * i.scale ≤ i.high
  else i.low < n * i.scale && n * i.scale < i.high

/-- The whole number of the interval that is nearest to its value, if there is one. Of two at the
same distance the even one is taken. -/
def Interval.nearest? (i : Interval) : Option Nat :=
  let below := i.value / i.scale
  let rest := i.value % i.scale
  match i.holds below, i.holds (below + 1) with
  | true, true =>
    if 2 * rest < i.scale || (2 * rest == i.scale && below % 2 == 0) then some below
    else some (below + 1)
  | true, false => some below
  | false, true => some (below + 1)
  | false, false => none

/-- Tries the grids `10^e`, `10^(e-1)`, … and takes the first that has a point in the interval. -/
def searchGrids (i : Interval) : Nat → Int → Digits
  | 0, e => ⟨(i.inUnits e).value / (i.inUnits e).scale, e⟩
  | fuel + 1, e =>
    match (i.inUnits e).nearest? with
    | some n => ⟨n, e⟩
    | none => searchGrids i fuel (e - 1)

/-- An exponent of ten no smaller than the order of the magnitude. -/
def Magnitude.order (x : Magnitude) : Int := ((x.m.log2 : Int) + x.q + 1) * 1233 / 4096 + 1

/-- The fewest digits that read back as the magnitude, and of those the nearest to it. Twenty
grids below the order of the number are enough for double precision. -/
def Magnitude.shortest (x : Magnitude) : Digits := searchGrids x.interval 24 x.order

end AnswerGateway.Decimal
