/-!
The command line. There are two commands, and neither of them has arguments of its own; one may ask
for help with each, and for the version of the program. The first word decides.
-/

namespace AnswerGateway.Program

inductive Command where
  | serve | cache
  deriving DecidableEq, Repr

inductive Halt where
  | help
  | version
  | noCommand
  | unknownCommand
  | unknownArgument
  /-- A value was given to an option that takes none. -/
  | needlessValue
  deriving DecidableEq, Repr

/-- The exit code of a program that does nothing: it is no failure to ask. -/
def Halt.exitCode : Halt → Nat
  | .help | .version => 0
  | _ => 2

def programName : String := "semantic-llm-gateway"

namespace Command

def name : Command → String
  | .serve => "serve"
  | .cache => "cache"

def all : List Command := [.serve, .cache]

def ofName? (word : String) : Option Command := all.find? (·.name = word)

def helpWord : String := "help"

def isCommandWord (word : String) : Bool := word = helpWord || (ofName? word).isSome

def longOption (known : List (String × Halt)) (option : List Char) : Halt :=
  match known.lookup (String.ofList (option.takeWhile (· ≠ '='))) with
  | none => .unknownArgument
  | some asked => if option.contains '=' then .needlessValue else asked

/-- What a word asks for that starts with a hyphen; none for other words, and for a hyphen alone. -/
def option? (long : List (String × Halt)) (short : List (Char × Halt)) (word : String) :
    Option Halt :=
  match word.toList with
  | '-' :: '-' :: c :: cs => some (longOption long (c :: cs))
  | '-' :: c :: _ => some ((short.lookup c).getD .unknownArgument)
  | _ => none

def alone (c : Command) : List String → Except Halt Command
  | [] => .ok c
  | ["--"] => .ok c
  | "--" :: _ => .error .unknownArgument
  | word :: _ =>
    .error ((option? [("help", .help)] [('h', .help)] word).getD .unknownArgument)

/-- Reads what follows the word for help: commands, and none has commands of its own. -/
def helpWith : List String → Halt
  | [] => .help
  | [word] => if isCommandWord word then .help else .unknownCommand
  | _ => .unknownCommand

/-- Reads what follows two hyphens, where a command is no command. -/
def afterHyphens : List String → Halt
  | [] => .noCommand
  | word :: _ => if isCommandWord word then .unknownArgument else .unknownCommand

def parse : List String → Except Halt Command
  | [] => .error .noCommand
  | "--" :: rest => .error (afterHyphens rest)
  | word :: rest =>
    match ofName? word with
    | some c => c.alone rest
    | none =>
      if word = helpWord then .error (helpWith rest)
      else
        .error ((option? [("help", .help), ("version", .version)]
          [('h', .help), ('V', .version)] word).getD .unknownCommand)

def purpose : Command → String
  | .serve => "Run the chat completions gateway"
  | .cache => "Run the semantic cache engine as a standalone service"

def usage : String :=
  "Usage: " ++ programName ++ " <COMMAND>\n\nCommands:\n" ++
    String.join (all.map fun c => "  " ++ c.name ++ "  " ++ c.purpose ++ "\n")

end Command

end AnswerGateway.Program
