/-!
White space as Unicode defines it, and trimming by it. Core's `Char.isWhitespace` knows ASCII
only; this module has the whole property, so a text that looks empty in any script is empty.
-/

namespace AnswerGateway.Text

def isBlank (c : Char) : Bool :=
  let n := c.toNat
  (0x09 ≤ n && n ≤ 0x0D) || n == 0x20 || n == 0x85 || n == 0xA0 || n == 0x1680 ||
    (0x2000 ≤ n && n ≤ 0x200A) || n == 0x2028 || n == 0x2029 || n == 0x202F || n == 0x205F ||
    n == 0x3000

/-- Characters without the leading ones that satisfy `p`, and without the trailing ones. -/
def stripWhere (p : Char → Bool) (cs : List Char) : List Char :=
  ((cs.dropWhile p).reverse.dropWhile p).reverse

theorem stripWhere_concat {p : Char → Bool} {c : Char} (goes : p c = true) (cs : List Char) :
    stripWhere p (cs ++ [c]) = stripWhere p cs := by
  unfold stripWhere
  rw [List.dropWhile_append]
  split
  · rename_i all
    have none : cs.dropWhile p = [] := by simpa using all
    simp [none, goes]
  · simp [goes]

theorem stripWhere_append {p : Char → Bool} {more : List Char} (go : ∀ c ∈ more, p c = true)
    (cs : List Char) : stripWhere p (cs ++ more) = stripWhere p cs := by
  induction more generalizing cs with
  | nil => rw [List.append_nil]
  | cons c rest ih =>
      have later : ∀ c ∈ rest, p c = true := fun d member => go d (List.mem_cons_of_mem c member)
      rw [List.append_cons, ih later, stripWhere_concat (go c List.mem_cons_self)]

/-- A text without white space at either end. -/
def trim (s : String) : String := String.ofList (stripWhere isBlank s.toList)

/-- A text without the given character at its end. -/
def trimEnd (c : Char) (s : String) : String :=
  String.ofList (s.toList.reverse.dropWhile (· == c)).reverse

def allBlank (s : String) : Bool := s.toList.all isBlank

end AnswerGateway.Text
