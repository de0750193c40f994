import AnswerGateway.Config.Basic
import AnswerGateway.Config.Conversion
import AnswerGateway.Fault
import AnswerGateway.Json.Reader
import AnswerGateway.Text.Blank

/-!
Loading the configuration: a file of defaults, a local file over it, and variables of the
environment over both. Each of them may be missing.
-/

namespace AnswerGateway

abbrev Environment := List (String × String)

namespace Config

/-- Why no configuration could be loaded. -/
inductive LoadFailure where
  /-- A file that is not a document. -/
  | unreadable (file : String) (failure : Json.Failure)
  /-- A file whose document is not an object. -/
  | notTable (file found : String)
  | misfit (misfit : Misfit)
  deriving Repr

def LoadFailure.message : LoadFailure → String
  | .unreadable file failure => failure.message ++ " in " ++ file
  | .notTable file found =>
    "invalid type: " ++ found ++ ", expected a map in " ++ file ++ " in " ++ file
  | .misfit m => m.message

/-- The files of a configuration, in the order in which they are laid over each other. -/
def fileNames : List String := ["config/default.json", "config/local.json"]

/-- A text without the mark that some editors put at its start. -/
def withoutMark (s : String) : String :=
  match s.toList with
  | '\ufeff' :: rest => String.ofList rest
  | _ => s

def fileSettings (file text : String) : Except LoadFailure (List (String × Setting)) :=
  match Json.parse (withoutMark text) with
  | .error f => .error (.unreadable file f)
  | .ok j =>
    match Setting.ofJson file j with
    | .table _ entries => .ok entries
    | s => .error (.notTable file s.describe)

def variableStart : List Char := "app__".toList

def dotted : List Char → List Char
  | '_' :: '_' :: rest => '.' :: dotted rest
  | c :: rest => c :: dotted rest
  | [] => []

def variableValue (s : String) : Scalar :=
  if Text.small s = "true" then .flag true
  else if Text.small s = "false" then .flag false
  else
    match Decimal.parseInt64? s, Decimal.parseDouble? s with
    | some i, _ => .whole i
    | none, some x => .double x
    | none, none => .text s

def variableSetting? (name value : String) : Option (String × Setting) :=
  let cs := (Text.small name).toList
  if variableStart.isPrefixOf cs then
    some (String.ofList (dotted (cs.drop variableStart.length)),
      .scalar (some "the environment") (variableValue value))
  else none

def gather (files : List (String × String)) (env : Environment) : Except LoadFailure Setting := do
  let root ← fileNames.foldlM (fun root name =>
    match files.lookup name with
    | some text => return Setting.layer (← fileSettings name text) root
    | none => return root) Setting.empty
  return Setting.layer (env.filterMap fun v => variableSetting? v.1 v.2) root

def load (files : List (String × String)) (env : Environment) : Except LoadFailure Config := do
  match (Config.format : FromSetting Config) (← gather files env) with
  | .ok config => return config
  | .error m => throw (.misfit m)

/-- The secret in a variable. A blank secret counts as none. -/
def secret (env : Environment) (name : String) : Except Fault String :=
  let missing : Except Fault String :=
    .error (.configuration ("Environment variable " ++ name ++ " is not set"))
  match env.lookup name with
  | some value => if Text.allBlank value then missing else .ok value
  | none => missing

end Config

end AnswerGateway
