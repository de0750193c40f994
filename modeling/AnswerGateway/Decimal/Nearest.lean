/-!
The double nearest to a decimal number. The number is a fraction of two natural numbers; it is
divided so that the quotient has as many bits as a double keeps, and the remainder decides the
rounding, so the result is the nearest double, and of two the even one.
-/

namespace AnswerGateway.Decimal

def roundedQuotient (n d : Nat) : Nat :=
  let q := n / d
  let r := n % d
  if 2 * r < d then q
  else if d < 2 * r then q + 1
  else if q % 2 = 0 then q
  else q + 1

def leastPlace : Int := -1074

/-- The bit of a double's significand that is not stored. -/
def hiddenBit : Nat := 0x10000000000000

/-- The exponent of two that leaves 53 bits of a fraction before the point, but not below the least
place. -/
def placeOf (n d : Nat) : Int :=
  let e : Int := (n.log2 : Int) - d.log2 - 52
  let short := n * Nat.pow 2 (-e).toNat < hiddenBit * d * Nat.pow 2 e.toNat
  max leastPlace (if short then e - 1 else e)

/-- The bits of the double nearest to `n / d`, with `0 < d`. -/
def nearestBits (n d : Nat) : Nat :=
  if n = 0 then 0
  else
    let e := placeOf n d
    let m := roundedQuotient (n * Nat.pow 2 (-e).toNat) (d * Nat.pow 2 e.toNat)
    let bits := m + (e - leastPlace).toNat * hiddenBit
    if 0x7FF * hiddenBit ≤ bits then 0x7FF * hiddenBit else bits

/-- The double nearest to `digits * 10^exponent`. Numbers of an order beyond four hundred are known
to be too large or too small without a division. -/
def nearestDouble (digits : Nat) (exponent : Int) : Float :=
  let order : Int := (Nat.toDigits 10 digits).length + exponent
  let bits :=
    if digits = 0 || order < -400 then 0
    else if 400 < order then 0x7FF * hiddenBit
    else nearestBits (digits * Nat.pow 10 exponent.toNat) (Nat.pow 10 (-exponent).toNat)
  Float.ofBits bits.toUInt64

end AnswerGateway.Decimal
