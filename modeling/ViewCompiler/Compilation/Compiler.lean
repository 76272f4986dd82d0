import ViewCompiler.Compilation.Check
import ViewCompiler.Component.Builtin
import ViewCompiler.Component.Documentation
import ViewCompiler.Settings.Basic

/-!
# The compiler

A compiler has settings and a registry, and remembers the components of the
programs that it has compiled.  Compiling a program registers its components,
checks its elements, and generates the code.  What happens on the way is a list
of events.
-/

namespace ViewCompiler

/-- A declared schema that is none. -/
structure SchemaTypeError where
  component : String
  prop : String
  type : String
deriving DecidableEq, Repr

def SchemaTypeError.message (error : SchemaTypeError) : String :=
  "custom_schemas['" ++ error.component ++ "']['" ++ error.prop ++
    "'] must be a Schema, got " ++ error.type

structure Compiler where
  settings : Settings
  /-- The schemas that the settings declare. -/
  declared : Entries (Entries Schema) := []
  registry : Registry
  /-- The last definition of every component that was compiled. -/
  custom : Entries Definition := []

/-- A compilation: the compiler after it, what happened, and the result. -/
structure Compilation where
  compiler : Compiler
  events : List Event
  outcome : Except CompilationError CompilationResult

namespace Compiler

/-- The declared properties of a component as schemas. -/
def properSchemas (component : String) :
    List (String × Supplied Schema) → Except SchemaTypeError (Entries Schema)
  | [] => .ok []
  | (prop, .proper schema) :: rest =>
    (properSchemas component rest).map fun schemas => (prop, schema) :: schemas
  | (prop, .other value) :: _ => .error ⟨component, prop, value.typeName⟩

/-- Register declared schemas one component after the other, up to the first
that is in error: the registry and the schemas, with what was logged. -/
def registerDeclared (registry : Registry) :
    DeclaredSchemas →
      Except SchemaTypeError (Registry × Entries (Entries Schema)) × Log
  | [] => (.ok (registry, []), [])
  | (name, declared) :: rest =>
    match properSchemas name declared with
    | .error error => (.error error, [])
    | .ok schemas =>
      let (result, log) :=
        registerDeclared (registry.register name schemas) rest
      (result.map fun (registry, others) =>
        (registry, (name, schemas) :: others),
        registry.registerLog name ++ log)

/-- The registry that a compiler works with: the given one, or that of the
built-in components if there is none or if it has no components. -/
def baseRegistry (given : Option Registry) : Registry :=
  match given with
  | some registry => if registry.isEmpty then Builtin.registry else registry
  | none => Builtin.registry

/-- A compiler with settings and a registry, and what setting it up logs. -/
def create (settings : Settings) (given : Option Registry := none) :
    Except SchemaTypeError Compiler × Log :=
  let (result, log) :=
    registerDeclared (baseRegistry given) settings.customSchemas
  (result.map fun (registry, declared) => { settings, declared, registry }, log)

/-- The schemas that are declared for a component, if any are. -/
def declaredFor (compiler : Compiler) (definition : Definition) :
    Option (Entries Schema) :=
  (Entries.get? compiler.declared definition.name).filter fun schemas =>
    !schemas.isEmpty

/-- The schemas of a defined component: those that are declared, else those read
off its use. -/
def schemasFor (compiler : Compiler) (definition : Definition) :
    Entries Schema :=
  (compiler.declaredFor definition).getD definition.inferredSchemas

def schemasLog (compiler : Compiler) (definition : Definition) : Log :=
  match compiler.declaredFor definition with
  | some _ => []
  | none => definition.inferenceLog

def validatorFor (compiler : Compiler) (definition : Definition) : Validator :=
  ⟨definition.name, compiler.schemasFor definition⟩

def define (compiler : Compiler) (definition : Definition) : Compiler :=
  { compiler with
    registry :=
      compiler.registry.register definition.name
        (compiler.schemasFor definition)
    custom := Entries.set compiler.custom definition.name definition }

/-- Names as the log lists them. -/
def nameList (names : List String) : String :=
  (Value.list (names.map .text)).display

def defineLog (compiler : Compiler) (definition : Definition) : Log :=
  let validator := compiler.validatorFor definition
  compiler.schemasLog definition ++
    compiler.registry.registerLog definition.name ++
    [⟨.debug, .compiler, "Registered custom component " ++ definition.name ++
      " (required: " ++ nameList validator.requiredProps ++ ", optional: " ++
      nameList validator.optionalProps ++ ")"⟩]

def defineAll (compiler : Compiler) (definitions : List Definition) :
    Compiler :=
  definitions.foldl define compiler

/-- What hooks are told of a defined component. -/
def definitionPayload (compiler : Compiler) (definition : Definition) :
    Payload :=
  [("name", .text definition.name), ("definition", .definition definition),
    ("schemas", .schemas (compiler.schemasFor definition))]

/-- What happens when defined components are registered. -/
def defineEvents : Compiler → List Definition → List Event
  | _, [] => []
  | compiler, definition :: rest =>
    Event.ofLog (compiler.defineLog definition) ++
      .reached .onComponent (compiler.definitionPayload definition) ::
        defineEvents (compiler.define definition) rest

def startRecord (settings : Settings) : LogRecord :=
  ⟨.info, .compiler, "Compiling " ++ settings.componentName ++ " (" ++
    settings.mode.name ++ ", " ++ settings.format.name ++ ", strict=" ++
    (Value.bool settings.strict).display ++ ")"⟩

def programPayload (settings : Settings) (program : Program) : Payload :=
  [("program", .program program), ("config", .settings settings)]

def resultPayload (result : CompilationResult) : Payload :=
  [("result", .result result), ("code", .text result.code),
    ("file_name", .text result.fileName)]

def doneRecord (result : CompilationResult) : LogRecord :=
  ⟨.info, .compiler, "Compiled " ++ result.fileName ++ " with " ++
    toString result.parameters.length ++ " parameters"⟩

/-- The definitions of a program by name, the last one of each. -/
def definitionsByName (program : Program) : Entries Definition :=
  Entries.ofPairs (program.definitions.map fun definition =>
    (definition.name, definition))

/-- The generator for a program whose components are registered. -/
def generator (compiler : Compiler) (program : Program) : Generator :=
  { format := compiler.settings.format
    tagOverrides := compiler.settings.tagOverrides
    componentName := compiler.settings.componentName
    schemas := (Entries.keys (definitionsByName program)).map fun name =>
      (name, (Entries.get? compiler.registry.components name).getD []) }

/-- The result of compiling a program whose components are registered and whose
checks were made. -/
def result (compiler : Compiler) (program : Program) (checks : List Check) :
    CompilationResult :=
  let scan := Binding.scan program
  let partition := scan.classify
  let generator := compiler.generator program
  { code := generator.emit program scan partition
    fileName := generator.fileName
    componentName := compiler.settings.componentName
    outputFormat := generator.format.name
    documentation :=
      if compiler.settings.documentation then
        some (Documentation.page compiler.registry (definitionsByName program))
      else none
    parameters := Binding.parameters scan partition
    internalState := partition.internalNames
    externalProps := partition.externalNames
    customComponents := Entries.keys (definitionsByName program)
    warnings := checks.flatMap Check.warnings ++
      scan.warnings.map Failure.describe
    failures := checks.filterMap Check.failure? }

def generationLog (compiler : Compiler) (program : Program) : Log :=
  let scan := Binding.scan program
  scan.log ++ (compiler.generator program).log program scan scan.classify

/-- What happens in a compilation up to the given checks. -/
def opening (compiler : Compiler) (program : Program) (checks : List Check) :
    List Event :=
  .logged (startRecord compiler.settings) ::
    .reached .beforeCompile (programPayload compiler.settings program) ::
      compiler.defineEvents program.definitions ++
        checks.flatMap (Check.events compiler.settings.strict)

def compile (compiler : Compiler) (program : Program) : Compilation :=
  let settings := compiler.settings
  let defined := compiler.defineAll program.definitions
  let checks :=
    Check.performed settings.strict (Check.all defined.registry program)
  let opening := compiler.opening program checks
  match if settings.strict then Check.firstError checks else none with
  | some error =>
    { compiler := defined, events := opening, outcome := .error error }
  | none =>
    let result := defined.result program checks
    { compiler := defined
      events := opening ++ Event.ofLog (defined.generationLog program) ++
        [.reached .afterOutput (resultPayload result),
          .logged (doneRecord result)]
      outcome := .ok result }

end Compiler

end ViewCompiler
