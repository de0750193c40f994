/-!
Media types, as far as it takes to tell whether a body is JSON: a type, a subtype that may have a
suffix behind a plus sign, and parameters whose form is checked and whose meaning is not.
-/

namespace AnswerGateway.Http

/-- A media type without its parameters, in small letters. -/
structure MediaType where
  type : String
  subtype : String
  suffix : Option String
  deriving DecidableEq, Repr

namespace MediaType

/-- Whether a character may stand in a type, a subtype or the name of a parameter. -/
def isToken (c : Char) : Bool :=
  c.isAlphanum || "!#$%&'*+-.^_\x60|~".toList.contains c

def isQuotable (c : Char) : Bool := 31 < c.toNat && c.toNat != 127

mutual

def areParameters : Nat → List Char → Bool
  | 0, _ => false
  | fuel + 1, cs =>
    match (cs.dropWhile (· = ' ')).dropWhile isToken with
    | '=' :: '"' :: c :: rest => isQuotable c && endsQuoted fuel rest
    | '=' :: rest =>
      match rest.dropWhile isToken with
      | [] => true
      | ';' :: more => (rest.head?.any isToken) && areParameters fuel more
      | _ => false
    | _ => false

/-- Whether a quoted value ends, and parameters or nothing follow. -/
def endsQuoted : Nat → List Char → Bool
  | 0, _ => false
  | fuel + 1, cs =>
    match cs.dropWhile fun c => isQuotable c && c != '"' with
    | '"' :: rest =>
      match rest.dropWhile (· = ' ') with
      | [] => true
      | ';' :: more => areParameters fuel more
      | _ => false
    | _ => false

end

/-- A subtype and its suffix. A plus sign at the start belongs to the subtype. -/
def splitSuffix (cs : List Char) : List Char × Option (List Char) :=
  let tail := cs.reverse.takeWhile (· ≠ '+')
  let before := cs.take (cs.length - tail.length - 1)
  if tail.length < cs.length ∧ before ≠ [] then (before, some tail.reverse) else (cs, none)

def parse? (s : String) : Option MediaType :=
  let cs := s.toList
  let type := cs.takeWhile isToken
  match cs.dropWhile isToken with
  | '/' :: rest =>
    let sub := rest.takeWhile isToken
    let parametersFit := match rest.dropWhile isToken with
      | [] => true
      | ';' :: more => sub ≠ [] && areParameters (more.length + 1) more
      | _ => false
    if type ≠ [] && parametersFit then
      let (subtype, suffix) := splitSuffix (sub.map Char.toLower)
      some ⟨String.ofList (type.map Char.toLower), String.ofList subtype, suffix.map String.ofList⟩
    else none
  | _ => none

def isJson (t : MediaType) : Bool :=
  t.type == "application" && (t.subtype == "json" || t.suffix == some "json")

end MediaType

end AnswerGateway.Http
