import AnswerGateway.Decimal.Parse
import AnswerGateway.Json.Printer
import AnswerGateway.Text.Blank

/-!
Log events and the filter that decides which of them are written. A filter is a list of directives,
each of which names a level and perhaps a target; for an event the directive with the longest target
that its own target starts with is the one that counts.
-/

namespace AnswerGateway.Program

inductive Level where
  | error | warn | info | debug | trace
  deriving DecidableEq, Repr

def Level.name : Level → String
  | .error => "ERROR"
  | .warn => "WARN"
  | .info => "INFO"
  | .debug => "DEBUG"
  | .trace => "TRACE"

/-- The place of a level: the higher, the more is written. -/
def Level.rank : Level → Nat
  | .error => 1
  | .warn => 2
  | .info => 3
  | .debug => 4
  | .trace => 5

structure LogEvent where
  level : Level
  target : String
  message : String
  fields : List (String × Json) := []
  deriving Repr

def LogEvent.record (e : LogEvent) : Json := .obj (("message", .str e.message) :: e.fields)

def LogEvent.documentLine (e : LogEvent) : String :=
  (Json.obj [("level", .str e.level.name), ("fields", e.record), ("target", .str e.target)]).print

def LogEvent.proseLine (e : LogEvent) : String :=
  e.level.name ++ " " ++ e.target ++ ": " ++ e.message ++
    String.join (e.fields.map fun f => ", " ++ f.1 ++ ": " ++ f.2.print)

structure Directive where
  target : Option String
  rank : Nat
  deriving DecidableEq, Repr

namespace Directive

/-- A level by its name, in letters of any case, or by its number. -/
def rank? (s : String) : Option Nat :=
  match Decimal.parseWord64? s with
  | some n => if n.toNat < 6 then some n.toNat else none
  | none =>
    [("off", 0), ("error", 1), ("warn", 2), ("info", 3), ("debug", 4), ("trace", 5)].lookup
      (String.ofList (s.toList.map Char.toLower))

/-- Whether a directive may start with a character. What is not ASCII is taken for a letter. -/
def mayStart (c : Char) : Bool :=
  c.isAlphanum || c = '-' || c = ':' || c = '_' || c = '[' || 0x80 ≤ c.toNat

/-- A directive about the spans that events are in, as far as the target. It is kept because a
filter that holds it is not empty, but no event that is told outside of all spans is affected. -/
def aboutSpans (target : Option String) : Directive := ⟨target, 6⟩

def isAboutSpans (d : Directive) : Bool := d.rank = 6

/-- Reads the text behind an equals sign. Without a level everything is written. -/
def withLevel? (target : Option String) (spans : Bool) (level : String) : Option Directive :=
  match if level = "" then some 5 else rank? level with
  | some rank => some (if spans then aboutSpans target else ⟨target, rank⟩)
  | none => none

def afterSpans? (target : Option String) (cs : List Char) : Option Directive :=
  match (cs.dropWhile (· ≠ ']')).drop 1 with
  | [] => if cs.contains ']' then some (aboutSpans target) else none
  | '=' :: level => withLevel? target true (String.ofList level)
  | _ => none

/-- Reads a directive. Blanks around it shift the place of its parts, because they are not looked
at and yet counted: `whole` is the text with them and `cs` the text without. -/
def read? (whole cs : List Char) : Option Directive :=
  match cs with
  | [] => none
  | c :: _ =>
    if !mayStart c then none
    else
      let name := cs.takeWhile fun c => c ≠ '=' && c ≠ '['
      let target := String.ofList (whole.take name.length)
      match cs.drop name.length with
      | '=' :: _ =>
        withLevel? (some target) false (String.ofList (whole.drop (name.length + 1)))
      | '[' :: rest => afterSpans? (if name.isEmpty then none else some target) rest
      | _ =>
        match rank? (String.ofList whole) with
        | some rank => some ⟨none, rank⟩
        | none => some ⟨some (String.ofList whole), 5⟩

def parse? (s : String) : Option Directive :=
  read? s.toList (Text.stripWhere Text.isBlank s.toList)

def concerns (target : String) (d : Directive) : Bool :=
  match d.target with
  | none => true
  | some t => t.toList.isPrefixOf target.toList

/-- How much of a target a directive names; a directive for any target names less than any. -/
def reach (d : Directive) : Nat := d.target.elim 0 (·.utf8ByteSize + 1)

end Directive

structure LogFilter where
  directives : List Directive
  deriving DecidableEq, Repr

namespace LogFilter

/-- The directives in a text, each of which may be none. -/
def parts (s : String) : List (Option Directive) :=
  ((s.splitOn ",").filter (· ≠ "")).map Directive.parse?

/-- A filter of directives; without any, errors are written. -/
def ofDirectives (ds : List Directive) : LogFilter :=
  ⟨if ds.isEmpty then [⟨none, Level.error.rank⟩] else ds⟩

def parse? (s : String) : Option LogFilter := ((parts s).mapM id).map ofDirectives

/-- Reads a filter, and leaves out what makes no sense. -/
def parseLossy (s : String) : LogFilter := ofDirectives ((parts s).filterMap id)

/-- The directive that counts for a target: of those with the longest target the last. -/
def for? (f : LogFilter) (target : String) : Option Directive :=
  (f.directives.filter fun d => !d.isAboutSpans && d.concerns target).foldl (fun best d =>
    match best with
    | some b => if b.reach ≤ d.reach then some d else best
    | none => some d) none

def admits (f : LogFilter) (e : LogEvent) : Bool :=
  (f.for? e.target).any (e.level.rank ≤ ·.rank)

end LogFilter

end AnswerGateway.Program
