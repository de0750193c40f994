import AnswerGateway.Decimal.Binary

/-!
Digits as text. There are two layouts. The document layout always shows a point or an exponent,
and uses an exponent when the number is very large or very small. The plain layout never uses an
exponent and shows whole numbers without a point.
-/

namespace AnswerGateway.Decimal

/-- The digits of a natural number, most significant first. -/
def natChars (n : Nat) : List Char := Nat.toDigits 10 n

/-- The digits of a whole number, with a minus sign in front of a negative one. -/
def intChars (i : Int) : List Char :=
  if i < 0 then '-' :: natChars i.natAbs else natChars i.natAbs

/-- All digits around a point; whole numbers end in `whole`. -/
def Digits.positional (d : Digits) (whole : List Char) : List Char :=
  let ds := natChars d.digits
  let point : Int := ds.length + d.exponent
  if 0 ≤ d.exponent then ds ++ List.replicate d.exponent.toNat '0' ++ whole
  else if 0 < point then ds.take point.toNat ++ '.' :: ds.drop point.toNat
  else '0' :: '.' :: List.replicate (-point).toNat '0' ++ ds

def Digits.scientific (d : Digits) : List Char :=
  let ds := natChars d.digits
  let order : Int := ds.length + d.exponent - 1
  let lead := match ds with
    | [] => []
    | [c] => [c]
    | c :: rest => c :: '.' :: rest
  lead ++ 'e' :: (if order < 0 then '-' else '+') :: natChars order.natAbs

/-- The document layout. The point stands within the digits, or up to `reach` places after their
start, or at most five places before it; any other number gets an exponent. -/
def Digits.inDocument (reach : Nat) (d : Digits) : List Char :=
  let point : Int := (natChars d.digits).length + d.exponent
  if -5 < point && point ≤ reach then d.positional ['.', '0'] else d.scientific

/-- The document text of a number, or `none` for an infinity or what is not a number. -/
def Reading.document? (reach : Nat) : Reading → Option (List Char)
  | .zero negative => some ((if negative then ['-'] else []) ++ ['0', '.', '0'])
  | .finite negative x => some ((if negative then ['-'] else []) ++ x.shortest.inDocument reach)
  | .infinite _ | .notANumber => none

/-- Documents write single-precision numbers below `10^13` without an exponent. -/
def singleDocument? (x : Float32) : Option (List Char) := (readSingle x).document? 13

/-- Documents write double-precision numbers below `10^16` without an exponent. -/
def doubleDocument? (x : Float) : Option (List Char) := (readDouble x).document? 16

def Reading.plain : Reading → List Char
  | .zero negative => (if negative then ['-'] else []) ++ ['0']
  | .finite negative x => (if negative then ['-'] else []) ++ x.shortest.positional []
  | .infinite negative => (if negative then ['-'] else []) ++ "inf".toList
  | .notANumber => "NaN".toList

def doublePlain (x : Float) : List Char := (readDouble x).plain

end AnswerGateway.Decimal
