import ViewCompiler.CommandLine.Basic

/-!
# The program

Reading files, printing and writing for the command line.
-/

namespace ViewCompiler.Terminal

/-- The environment as far as the program looks at it. -/
def readEnvironment : IO Environment :=
  Variable.all.filterMapM fun v => do
    return (← IO.getEnv v.name).map fun text => (v.name, text)

/-- Read a file; one that cannot be opened counts as missing. -/
def readSource (location : Location) : IO (Except FileError String) := do
  try
    return .ok (← IO.FS.readFile location.text)
  catch _ =>
    return .error ⟨.notFound, location⟩

/-- Print the records that reach a threshold. -/
def printLog (log : Log) (threshold : Int) : IO Unit :=
  (log.atLeast threshold).forM fun record =>
    IO.eprintln (record.level.name ++ " - " ++ record.message)

def reportEnding : Ending → IO UInt32
  | .exit code => return code.toUInt32
  | .unreadableProgram fault => do
    IO.eprintln fault.message
    return 1
  | .refusedSettings errors => do
    errors.forM fun error => IO.eprintln ("invalid setting: " ++ error.setting)
    return 1
  | .refusedDirectory fault => do
    IO.eprintln fault.message
    return 1
  | .refusedFile error => do
    IO.eprintln error.message
    return 1

def run (arguments : List String) : IO UInt32 := do
  let environment ← readEnvironment
  let command := Command.read arguments
  let threshold := command.threshold environment
  let source ← match command.source? with
    | some location => readSource location
    | none => pure (.ok "")
  let effects := command.effects environment source
  printLog effects.log threshold
  IO.print effects.stdout
  match effects.output with
  | some (directory, artifacts) =>
    IO.FS.createDirAll directory.text
    artifacts.forM fun artifact =>
      IO.FS.writeFile artifact.location.text artifact.text
  | none => pure ()
  printLog effects.writtenLog threshold
  reportEnding effects.ending

end ViewCompiler.Terminal

def main (arguments : List String) : IO UInt32 :=
  ViewCompiler.Terminal.run arguments
