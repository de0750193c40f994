/-!
Patterns of paths. A part of a path between two slashes may end in a name within braces, which
stands for any text; a name with a star stands for all that is left of the path. A brace that is
written twice is meant as itself. `Route.parse?` refuses patterns that mean nothing.

Two kinds of patterns are left out. A name that itself has a brace or a slash in it is refused here,
and a pattern with more than twenty-five names is taken; a router may take the one and not the other.
-/

namespace AnswerGateway.Http

inductive RoutePart where
  | literal (text : List Char)
  | starting (text : List Char)
  /-- All that is left, which starts in a certain way and goes on. -/
  | rest (text : List Char)
  deriving DecidableEq, Repr

structure Route where
  parts : List RoutePart
  deriving DecidableEq, Repr

namespace Route

def splitSlashes : List Char → List (List Char)
  | [] => [[]]
  | c :: more =>
    match splitSlashes more with
    | [] => [[c]]
    | p :: ps => if c = '/' then [] :: p :: ps else (c :: p) :: ps

def isName (cs : List Char) : Bool :=
  !cs.isEmpty && cs.all fun c => c ≠ '*' && c ≠ '\x7b' && c ≠ '\x7d'

def named? (before : List Char) (inside : List Char) : Option RoutePart :=
  match inside.getLast?, inside.dropLast with
  | some '\x7d', '*' :: name => if isName name then some (.rest before) else none
  | some '\x7d', name => if isName name then some (.starting before) else none
  | _, _ => none

def part? (before : List Char) : List Char → Option RoutePart
  | [] => some (.literal before)
  | '\x7b' :: '\x7b' :: more => part? (before ++ ['\x7b']) more
  | '\x7d' :: '\x7d' :: more => part? (before ++ ['\x7d']) more
  | '\x7b' :: inside => named? before inside
  | c :: more => if c = '\x7d' then none else part? (before ++ [c]) more

def RoutePart.isRest : RoutePart → Bool
  | .rest _ => true
  | _ => false

/-- Reads a pattern. No part may start with a colon or a star. -/
def parse? (pattern : String) : Option Route :=
  match pattern.toList with
  | '/' :: cs => do
    let texts := splitSlashes cs
    if texts.any fun t => t.head? = some ':' || t.head? = some '*' then none
    let parts ← texts.mapM (part? [])
    if parts.dropLast.any RoutePart.isRest then none else some ⟨parts⟩
  | _ => none

def follows : List RoutePart → List (List Char) → Bool
  | [], [] => true
  | .literal t :: parts, u :: us => t = u && follows parts us
  | .starting t :: parts, u :: us => t.isPrefixOf u && t.length < u.length && follows parts us
  | .rest t :: _, us =>
    let left := List.intercalate ['/'] us
    t.isPrefixOf left && t.length < left.length
  | _, _ => false

def covers (r : Route) (path : String) : Bool :=
  match path.toList with
  | '/' :: cs => follows r.parts (splitSlashes cs)
  | _ => false

end Route

end AnswerGateway.Http
