/-!
The likeness of two vectors: the cosine of the angle between them, in single precision. Sums run
from the first component to the last, so the result is the same on every run. Vectors that cannot
be compared have no likeness.
-/

namespace AnswerGateway

abbrev Vector := List Float32

namespace Vector

/-- The sum of numbers from left to right. It starts from negative zero, which adds nothing. -/
def sum (xs : List Float32) : Float32 := xs.foldl (· + ·) (-0.0)

def dot (a b : Vector) : Float32 := sum (List.zipWith (· * ·) a b)

def norm (a : Vector) : Float32 := (dot a a).sqrt

/-- The cosine of the angle between two vectors; zero if their lengths differ, or if one of them is
empty or has no length. -/
def cosine (a b : Vector) : Float32 :=
  if a.length ≠ b.length ∨ a.isEmpty then 0
  else if a.norm == 0 || b.norm == 0 then 0
  else dot a b / (a.norm * b.norm)

end Vector

end AnswerGateway
