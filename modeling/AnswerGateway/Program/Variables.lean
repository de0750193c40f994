import AnswerGateway.Config.Load
import AnswerGateway.Text.Blank

/-!
A file of variables that are set before the program starts, unless they are set already. A line
names a variable and gives its text, which may be quoted, go over several lines, hold escapes and
refer to variables set before it. Reading stops at the first line that makes no sense; the lines
before it count.
-/

namespace AnswerGateway.Program.Variables

/-! ### Lines -/

/-- Where a line stands, as far as it takes to tell whether the next one belongs to it. -/
inductive LineState where
  | plain
  | escape
  | blank
  | strong
  | strongEscape
  | weak
  | weakEscape
  deriving DecidableEq, Repr

/-- The state after a character that is not quoted. -/
def openedBy : Char → LineState
  | '\\' => .escape
  | '"' => .weak
  | '\'' => .strong
  | _ => .plain

/-- The state after a character; none where a comment starts. -/
def LineState.next? (c : Char) : LineState → Option LineState
  | .blank => if c = '#' then none else some (openedBy c)
  | .escape => some .plain
  | .plain => some (if Text.isBlank c && c ≠ '\n' && c ≠ '\r' then .blank else openedBy c)
  | .weak => some (if c = '\\' then .weakEscape else if c = '"' then .plain else .weak)
  | .weakEscape => some .weak
  | .strong => some (if c = '\\' then .strongEscape else if c = '\'' then .plain else .strong)
  | .strongEscape => some .strong

/-- Follows a line to its end or to a comment: what comes before, and the state at the end. -/
def LineState.follow (s : LineState) : List Char → List Char × Option LineState
  | [] => ([], some s)
  | c :: rest =>
    match s.next? c with
    | none => ([], none)
    | some s =>
      let (front, last) := s.follow rest
      (c :: front, last)

def physicalLines : List Char → List (List Char)
  | [] => []
  | c :: rest =>
    if c = '\n' then [c] :: physicalLines rest
    else
      match physicalLines rest with
      | [] => [[c]]
      | l :: ls => (c :: l) :: ls

/-- A text without a line end at its end. -/
def chomp (cs : List Char) : List Char :=
  match cs.reverse with
  | '\n' :: '\r' :: front => front.reverse
  | '\n' :: front => front.reverse
  | _ => cs

/-- Whether a line is nothing but a comment. -/
def isComment (cs : List Char) : Bool := (cs.dropWhile Text.isBlank).head? = some '#'

/-- Joins the lines of a file that belong together. `held` is a line that has not ended. The last
line of all is none if it never ends. -/
def joinLines (held : List Char) (s : LineState) : List (List Char) → List (Option (List Char))
  | [] => if s = .plain then [] else [none]
  | l :: ls =>
    if isComment (held ++ l) then some [] :: joinLines [] .plain ls
    else
      match s.follow l with
      | (front, none) => some (held ++ front) :: joinLines [] .plain ls
      | (_, some .plain) => some (chomp (held ++ l)) :: joinLines [] .plain ls
      | (_, some s) => joinLines (held ++ l) s ls

/-! ### Texts -/

inductive Reference where
  | none
  | bare
  | braced
  deriving DecidableEq, Repr

structure Value where
  strong : Bool := false
  weak : Bool := false
  escaped : Bool := false
  /-- After a blank only a comment may follow. -/
  ended : Bool := false
  reference : Reference := .none
  name : List Char := []
  out : List Char := []

/-- Replaces the name that has been read by the text of that variable. -/
def Value.resolve (env : Environment) (v : Value) : Value :=
  { v with
    out := v.out ++ ((env.lookup (String.ofList v.name)).getD "").toList
    name := [], reference := .none }

def Value.refer (env : Environment) (c : Char) (v : Value) : Value :=
  if c.isAlphanum then { v with name := v.name ++ [c] }
  else if v.reference = .braced then
    if c = '\x7d' then v.resolve env else { v with name := v.name ++ [c] }
  else if c = '\x7b' && v.name.isEmpty then { v with reference := .braced }
  else
    let v := v.resolve env
    if c = '$' then { v with reference := .bare } else { v with out := v.out ++ [c] }

def escape? (c : Char) : Option Char :=
  if c = 'n' then some '\n' else if "\\'\"$ ".toList.contains c then some c else none

/-- Takes one character; none if it may not stand there. -/
def Value.take? (env : Environment) (c : Char) (v : Value) : Option Value :=
  if v.ended then if c = ' ' || c = '\t' then some v else none
  else if v.escaped then do
    return { v with escaped := false, out := v.out ++ [← escape? c] }
  else if v.strong then
    some (if c = '\'' then { v with strong := false } else { v with out := v.out ++ [c] })
  else if v.reference ≠ .none then some (v.refer env c)
  else if c = '$' then some { v with reference := .bare }
  else if c = '\\' then some { v with escaped := true }
  else if v.weak then
    some (if c = '"' then { v with weak := false } else { v with out := v.out ++ [c] })
  else if c = '\'' then some { v with strong := true }
  else if c = '"' then some { v with weak := true }
  else if c = ' ' || c = '\t' then some { v with ended := true }
  else some { v with out := v.out ++ [c] }

def Value.read? (env : Environment) (v : Value) : List Char → Option String
  | [] =>
    if v.reference = .braced || v.strong || v.weak then none
    else some (String.ofList (v.resolve env).out)
  | c :: rest =>
    if v.ended && c = '#' then v.read? env []
    else (v.take? env c).bind fun v => v.read? env rest

/-! ### Variables -/

def name? (cs : List Char) : Option (String × List Char) :=
  let inName (c : Char) := c.isAlphanum || c = '_' || c = '.'
  match cs with
  | c :: _ =>
    if c.isAlpha || c = '_' then
      some (String.ofList (cs.takeWhile inName), (cs.dropWhile inName).dropWhile Text.isBlank)
    else none
  | [] => none

def afterEquals? : List Char → Option (List Char)
  | '=' :: rest => some (rest.dropWhile Text.isBlank)
  | _ => none

/-- The name of the variable that a line sets, and what stands for its text. The word for export may
come first. -/
def assignment? (cs : List Char) : Option (String × List Char) := do
  let (name, rest) ← name? cs
  match name, afterEquals? rest with
  | _, some text => return (name, text)
  | "export", none =>
    let (name, rest) ← name? rest
    return (name, ← afterEquals? rest)
  | _, none => none

/-- The variables after one line. The first one of a name stays. -/
def setLine? (env : Environment) (line : List Char) : Option Environment := do
  let cs := Text.stripWhere Text.isBlank line
  if cs.isEmpty || cs.head? = some '#' then return env
  let (name, text) ← assignment? cs
  let value ← if text.head? = some '#' then some "" else Value.read? env {} text
  return if (env.lookup name).isSome then env else env ++ [(name, value)]

/-- The variables after lines, up to the first that makes no sense. -/
def setLines (env : Environment) : List (Option (List Char)) → Environment
  | [] => env
  | none :: _ => env
  | some line :: rest =>
    match setLine? env line with
    | some env => setLines env rest
    | none => env

/-- The environment after the variables of a file have been added. -/
def addFile (env : Environment) (text : String) : Environment :=
  setLines env (joinLines [] .plain (physicalLines (Config.withoutMark text).toList))

end AnswerGateway.Program.Variables
