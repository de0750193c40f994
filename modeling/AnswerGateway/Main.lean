import AnswerGateway.Config.Document
import AnswerGateway.Program.Run

/-!
The program: it reads what it finds around it, and writes and returns what the run says. There is
nothing to listen on, so a run is one that is told to stop as soon as it serves.
-/

namespace AnswerGateway.Program

def readVariables (names : List String) : IO Environment :=
  names.filterMapM fun name => do return (← IO.getEnv name).map (name, ·)

def readFiles (names : List String) : IO (List (String × String)) :=
  names.filterMapM fun (name : String) => do
    try return some (name, ← IO.FS.readFile name)
    catch _ => return none

def keyNames (c : Config) : List String :=
  c.vectorStore.apiKeyEnv.toList ++ [c.embedding.apiKeyEnv, c.completion.apiKeyEnv]

/-- What the program finds around it. The keys are looked up under the names in the
configuration. -/
def readSurroundings : IO Surroundings := do
  let files ← readFiles (".env" :: Config.fileNames)
  let env ← readVariables ("RUST_LOG" :: Config.variableNames "APP" (Config.toJson {}))
  let all := Variables.addFile env ((files.lookup ".env").getD "")
  let keys := match Config.load files all with
    | .ok config => keyNames config
    | .error _ => []
  return { env := env ++ (← readVariables keys), files }

end AnswerGateway.Program

open AnswerGateway Program in
def main (args : List String) : IO UInt32 := do
  let outcome := run args (← readSurroundings) .terminate
  for line in outcome.printed.lines do
    IO.println line
  if let some message := outcome.message then
    IO.eprintln ("Error: " ++ message)
  return UInt32.ofNat outcome.exitCode
