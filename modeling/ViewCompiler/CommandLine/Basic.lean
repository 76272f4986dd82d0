import ViewCompiler.CommandLine.Arguments
import ViewCompiler.Compilation.Compiler
import ViewCompiler.Component.Report
import ViewCompiler.Output.Artifact
import ViewCompiler.Output.Report
import ViewCompiler.Program.Loading

/-!
# The command line

Commands as functions of their arguments, the environment and the files.  The
compile command first reads its source and computes everything else from it;
nothing is written before the code is there.
-/

namespace ViewCompiler

inductive Ending where
  | exit (code : Nat)
  | unreadableProgram (fault : ShapeFault)
  | refusedSettings (errors : List SettingError)
  | refusedDirectory (fault : LocationFault)
  | refusedFile (error : FileError)
deriving DecidableEq, Repr

/-- What a command does besides reading: how it ends, what it prints, what it
logs before it writes, and what it writes. -/
structure Effects where
  ending : Ending
  stdout : String := ""
  log : Log := []
  /-- The directory to be made and the files to be written in it. -/
  output : Option (Location × List Artifact) := none
  /-- What is logged after everything was written. -/
  writtenLog : Log := []

structure CommandRun where
  ending : Ending
  stdout : String := ""
  files : Files
  log : Log := []

inductive Command where
  /-- Show how to use the program, and end with a code. -/
  | help (code : Nat)
  | compile (arguments : CompileArguments)
  /-- The arguments of the compile command only ask for help. -/
  | compileHelp
  /-- The arguments of the compile command are not taken. -/
  | refused
  | components (names : List String)
  | environment (category : Option String)
  | unknown (name : String)
deriving DecidableEq, Repr

namespace Command

def read : List String → Command
  | [] => help 1
  | "-h" :: _ => help 0
  | "--help" :: _ => help 0
  | "compile" :: rest =>
    match CompileArguments.read rest with
    | .taken arguments => compile arguments
    | .helpAsked => compileHelp
    | .refused => refused
  | "components" :: rest => components rest
  | "env" :: rest => environment rest.head?
  | name :: _ => unknown name

def usage : String :=
  "Usage: python . \x7bcommand\x7d [args]\n" ++
  "\nCommands:\n" ++
  "  compile     Compile a parsed UIX AST into a React component\n" ++
  "  components  Show the built-in component registry\n" ++
  "  env         Show UIX_* environment variables\n" ++
  "  test        Run the test suite\n" ++
  "\nExamples:\n" ++
  "  python . compile ast.json                    # Write src/CompiledUI.jsx\n" ++
  "  python . compile ast.json --ts --docs -o out # TSX plus ComponentDocs.md\n" ++
  "  python . compile ast.json --strict --stdout  # Fail on invalid props\n" ++
  "  python . components Button\n" ++
  "  python . test --unit\n"

def record (level : LogLevel) (message : String) : LogRecord :=
  ⟨level, .commandLine, message⟩

/-- The records that an environment lets through; before a command is known only
warnings are. -/
def threshold (command : Command) (environment : Environment) : Int :=
  match command with
  | help _ | unknown _ => LogLevel.warning.weight
  | _ => Log.threshold (Variable.logLevel.textValue environment)

/-- The settings that the arguments ask for in place of those of the
environment. -/
def overrides (arguments : CompileArguments) : SettingsRequest :=
  let flag (on : Bool) : Option Value := if on then some (.bool true) else none
  { strict := flag arguments.strict
    typescript := flag arguments.typescript
    documentation := flag arguments.documentation
    componentName := arguments.componentName.map OptionValue.toValue }

def deliver (arguments : CompileArguments) (environment : Environment)
    (program : Program) (result : CompilationResult) (log : Log) : Effects :=
  let shown := if arguments.tree then some program else none
  let report := (Text.lines (Report.render result shown)).map (record .info)
  if arguments.toStdout then
    { ending := .exit 0, stdout := result.code, log, writtenLog := report }
  else
    match environment.outputDirectory
        ((arguments.outputDirectory.map OptionValue.toValue).getD .null) with
    | .error fault => { ending := .refusedDirectory fault, log }
    | .ok directory =>
      { ending := .exit 0
        log
        output := some (directory, result.artifacts directory)
        writtenLog := result.writeLog directory ++ report }

def compileProgram (arguments : CompileArguments) (environment : Environment)
    (program : Program) (log : Log) : Effects :=
  match environment.settings (overrides arguments) with
  | .error errors => { ending := .refusedSettings errors, log }
  | .ok settings =>
    let compiler : Compiler := { settings, registry := Builtin.registry }
    let compilation := compiler.compile program
    let log := log ++ (Hooks.observe {} compilation.events).log
    match compilation.outcome with
    | .error error =>
      { ending := .exit 1, log := log ++ [record .error error.message] }
    | .ok result => deliver arguments environment program result log

def compileSource (arguments : CompileArguments) (environment : Environment)
    (source : Except FileError String) : Effects :=
  let path := (Location.read arguments.source).text
  match source with
  | .error ⟨.notFound, _⟩ =>
    { ending := .exit 1,
      log := [record .error ("AST file not found: " ++ path)] }
  | .error error => { ending := .refusedFile error }
  | .ok text =>
    match Program.loadText path text with
    | .error (.shape fault) => { ending := .unreadableProgram fault }
    | .error error =>
      { ending := .exit 1
        log :=
          [record .error ("Could not load " ++ path ++ ": " ++ error.message)] }
    | .ok (program, log) => compileProgram arguments environment program log

/-- Show the built-in components of the given names, or all. -/
def showComponents (names : List String) : Effects :=
  let reports := Builtin.registry.componentReports
  let missing := names.filter fun name => !Entries.has reports name
  if names.isEmpty then
    { ending := .exit 0,
      stdout := Builtin.registry.report.writeIndented 0 ++ "\n" }
  else if missing.isEmpty then
    let chosen := Entries.ofPairs (names.filterMap fun name =>
      (Entries.get? reports name).map fun report => (name, report))
    { ending := .exit 0,
      stdout := (Json.object chosen).writeIndented 0 ++ "\n" }
  else
    { ending := .exit 1
      log :=
        [record .error ("Unknown component(s): " ++ ", ".intercalate missing)] }

/-- Show the variables of a category, or all. -/
def showEnvironment (environment : Environment) (category : Option String) :
    Effects :=
  let lines := environment.describe category
  if lines.isEmpty then
    { ending := .exit 1
      log := [record .error ("Unknown category: " ++ category.getD "")] }
  else
    { ending := .exit 0
      log := record .info "Environment:" ::
        lines.map fun line => record .info ("  " ++ line) }

/-- The effects of a command, given how to read a file. -/
def effects (command : Command) (environment : Environment)
    (source : Except FileError String) : Effects :=
  match command with
  | help code => { ending := .exit code, stdout := usage }
  | compile arguments => compileSource arguments environment source
  | compileHelp => { ending := .exit 0 }
  | refused => { ending := .exit 2 }
  | components names => showComponents names
  | .environment category => showEnvironment environment category
  | unknown name =>
    { ending := .exit 1, stdout := usage,
      log := [record .error ("Unknown command: " ++ name)] }

def source? : Command → Option Location
  | compile arguments => some (Location.read arguments.source)
  | _ => none

end Command

namespace Effects

def perform (effects : Effects) (files : Files) (threshold : Int) :
    CommandRun :=
  let (files, refusal) := match effects.output with
    | some (directory, artifacts) => files.writeTo directory artifacts
    | none => (files, none)
  match refusal with
  | some error =>
    { ending := .refusedFile error
      stdout := effects.stdout
      files
      log := Log.atLeast effects.log threshold }
  | none =>
    { ending := effects.ending
      stdout := effects.stdout
      files
      log := Log.atLeast (effects.log ++ effects.writtenLog) threshold }

end Effects

def CommandRun.of (arguments : List String) (environment : Environment)
    (files : Files) : CommandRun :=
  let command := Command.read arguments
  let source := match command.source? with
    | some location => files.read location
    | none => .ok ""
  (command.effects environment source).perform files
    (command.threshold environment)

end ViewCompiler
