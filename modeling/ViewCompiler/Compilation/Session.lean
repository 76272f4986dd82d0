import ViewCompiler.Compilation.Source

/-!
# Sessions

A session is a compiler at work, together with its hooks.  A compilation goes
through stages.  Each of them may change the compiler, log records, let the
hooks of a point run, or stop the compilation; what was done before a stop stays
done.
-/

namespace ViewCompiler

/-- A compiler with its hooks, the calls of hooks so far, and the log so far. -/
structure Session where
  compiler : Compiler
  hooks : Hooks := {}
  calls : List HookCall := []
  log : Log := []

abbrev Stage := ExceptT Stop (StateM Session)

namespace Stage

def record (log : Log) : Stage Unit :=
  modify fun session => { session with log := session.log ++ log }

/-- Let the hooks of a point run.  What they make of the payload is dropped. -/
def reach (point : HookPoint) (payload : Payload) : Stage Unit := do
  let session ← get
  let execution := session.hooks.execute point payload
  set { session with
    hooks := execution.hooks
    calls := session.calls ++ execution.calls
    log := session.log ++ execution.log }
  match execution.ended with
  | none => return
  | some raised => throw (.ended raised)

def compiler : Stage Compiler :=
  return (← get).compiler

def load (source : Source) : Stage Program :=
  match source.load with
  | .ok (program, log) => do
    record log
    return program
  | .error error => throw (.unloadable error)

def define (definition : Definition) : Stage Unit := do
  let before ← compiler
  record (before.defineLog definition)
  modify fun session => { session with compiler := before.define definition }
  reach .onComponent (before.definitionPayload definition)

def defineAll : List Definition → Stage Unit
  | [] => return
  | definition :: rest => do
    define definition
    defineAll rest

/-- Treat a failed check: a strict compiler stops there. -/
def refuse (component : String) (failure : Failure) : Stage Unit := do
  reach .onValidationError (Check.failurePayload component failure)
  if (← compiler).settings.strict then throw (.failed ⟨component, failure⟩)
  else record (Check.toleratedLog component failure)

/-- Check the properties of a component. -/
def checkProps (component : String) (props : Props) : Stage Check := do
  let registry := (← compiler).registry
  match Check.comparison? registry component props with
  | some comparison => throw (.interrupted comparison)
  | none =>
    let check := Check.run registry component props
    record check.log
    match check.failure? with
    | none => return check
    | some failure =>
      refuse component failure
      return check

/-- Check a node, if it is an element of a registered component. -/
def checkNode : Node → Stage (Option Check)
  | .element tag props _ => do
    if (← compiler).registry.has tag then return some (← checkProps tag props)
    else return none
  | _ => return none

def checkAll : List Node → Stage (List Check)
  | [] => return []
  | node :: rest => do
    let check ← checkNode node
    let checks ← checkAll rest
    return check.toList ++ checks

/-- Generate the result for a program whose checks were made. -/
def generate (program : Program) (checks : List Check) :
    Stage CompilationResult := do
  let compiler ← compiler
  let result := compiler.result program checks
  record (compiler.generationLog program)
  reach .afterOutput (Compiler.resultPayload result)
  record [Compiler.doneRecord result]
  return result

/-- Begin the compilation of a program, and register its components. -/
def begin (program : Program) : Stage Unit := do
  let settings := (← compiler).settings
  record [Compiler.startRecord settings]
  reach .beforeCompile (Compiler.programPayload settings program)
  defineAll program.definitions

def compile (source : Source) : Stage CompilationResult := do
  let program ← load source
  begin program
  let checks ← checkAll program.nodes
  generate program checks

end Stage

namespace Session

/-- Go through a stage: how it ends, and the session after it. -/
def run {α : Type} (session : Session) (stage : Stage α) :
    Except Stop α × Session :=
  stage.run.run session

/-- Compile a source: what it gives, and the session after it. -/
def compile (session : Session) (source : Source) :
    Except Stop CompilationResult × Session :=
  session.run (.compile source)

end Session

end ViewCompiler
