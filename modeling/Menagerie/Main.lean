import Menagerie.CommandLine.EnvironmentFile
import Menagerie.Launch.Programs

/-!
# The programs

The first word chooses the program, `server` or `client`; the others are its command line. The
environment is completed by the file `.env` of the working directory. There is no network behind
these programs, so they go as far as one can without.
-/

namespace Menagerie

def readEnvironment (p : CommandLine.Program) : IO CommandLine.Environment := do
  let mut environment := []
  for name in p.flags.map (·.env) do
    if let some value ← IO.getEnv name then
      environment := environment ++ [(name, value)]
  let file ← (some <$> IO.FS.readFile ".env") <|> pure none
  pure (CommandLine.EnvironmentFile.load environment (file.getD ""))

def finish (o : Launch.Outcome) : IO UInt32 := do
  for line in o.log do
    IO.println line.text
  IO.print o.stdout
  IO.eprint o.stderr
  pure (UInt32.ofNat o.exit)

def nowhere : Launch.Network Unit := .isolated Unit []

def runProgram (words : List String) : IO UInt32 := do
  match words with
  | "client" :: words =>
    finish (Launch.runClient nowhere (← readEnvironment ClientConfig.program) words)
  | "server" :: words =>
    match Launch.startServer nowhere (← readEnvironment ServerConfig.program) words with
    | .ended outcome => finish outcome
    | .running config => finish (Launch.endServer config (Launch.hostOf config) .terminate)
  | _ =>
    IO.eprintln "usage: server|client [OPTIONS]"
    pure 2

end Menagerie

def main (words : List String) : IO UInt32 := Menagerie.runProgram words
