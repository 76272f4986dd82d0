import ViewCompiler.Output.Markup
import ViewCompiler.Output.PropType
import ViewCompiler.Usage
import ViewCompiler.Value.Data

/-!
# Generated modules

The whole file that a program compiles to: a default export that owns the state
and takes the parameters, with the program's components as functions inside it.
The typed form has an interface for the properties of every component and names
it in every signature.
-/

namespace ViewCompiler

inductive Format where
  | jsx
  | tsx
deriving DecidableEq, Repr

namespace Format

def name : Format → String
  | jsx => "jsx"
  | tsx => "tsx"

def all : List Format := [jsx, tsx]

def ofName? (name : String) : Option Format :=
  all.find? fun format => format.name == name

/-- The message about a name that no form has. -/
def unknown (name : String) : String :=
  "Unknown output format '" ++ name ++ "'. Available: " ++
    ", ".intercalate (all.map Format.name)

/-- The extension of a file of the form. -/
def fileExtension (format : Format) : String :=
  "." ++ format.name

end Format

structure Generator where
  format : Format
  tagOverrides : Entries String := []
  componentName : String := "CompiledUI"
  /-- The schemas of components; those of other components are read off their
  use. -/
  schemas : Entries (Entries Schema) := []

/-- A value of the named type that state cannot start from, because it has no
data. -/
structure DataError where
  type : String
deriving DecidableEq, Repr

def DataError.message (error : DataError) : String :=
  "Object of type " ++ error.type ++ " is not JSON serializable"

namespace Value

/-- The value that state starts from: an expression as it is, any other value as
data. -/
def initializer : Value → String
  | .expression e => e.text
  | value => value.toJson.write

/-- The value that state starts from, unless a part of it has no data. -/
def initializer? : Value → Except DataError String
  | .expression e => .ok e.text
  | value =>
    match value.dataless? with
    | some type => .error ⟨type⟩
    | none => .ok value.initializer

end Value

namespace Generator

/-- The first line of every generated file. -/
def header : String :=
  "// Auto-generated by UIX compiler"

def tags (generator : Generator) : Entries String :=
  Entries.setAll Markup.defaultTags generator.tagOverrides

def fileName (generator : Generator) : String :=
  generator.componentName ++ generator.format.fileExtension

/-- The schemas that are given for a component, if any are. -/
def givenSchemas (generator : Generator) (definition : Definition) :
    Option (Entries Schema) :=
  (Entries.get? generator.schemas definition.name).filter fun schemas =>
    !schemas.isEmpty

def schemasFor (generator : Generator) (definition : Definition) :
    Entries Schema :=
  (generator.givenSchemas definition).getD definition.inferredSchemas

/-- The name of the interface of a component's properties. -/
def propsType (component : String) : String :=
  component ++ "Props"

/-- An interface with its property lines. -/
def interfaceLines (component : String) (properties : List String) :
    List Line :=
  ⟨0, "interface " ++ propsType component ++ " \x7b"⟩ ::
    properties.map (fun property => ⟨1, property⟩) ++ [⟨0, "\x7d"⟩, ⟨0, ""⟩]

/-- The property line of a parameter. -/
def propertyLine (schemas : Entries Schema) (parameter : String) : String :=
  let schema := (Entries.get? schemas parameter).getD (.any {})
  parameter ++ (if schema.required then "" else "?") ++ ": " ++
    schema.kind.typeScript ++ ";"

/-- The interface of a defined component. -/
def definitionInterface (generator : Generator) (definition : Definition) :
    List Line :=
  interfaceLines definition.name
    (definition.paramNames.map (propertyLine (generator.schemasFor definition)))

/-- The interfaces that come before the default export; the untyped form has
none. -/
def preamble (generator : Generator) (definitions : List Definition)
    (parameters : List String) : List Line :=
  match generator.format with
  | .jsx => []
  | .tsx =>
    definitions.flatMap generator.definitionInterface ++
      interfaceLines generator.componentName (parameters.map (· ++ ": any;"))

/-- The parameters of a component as one destructured argument. -/
def destructure (parameters : List String) : String :=
  if parameters.isEmpty then "\x7b\x7d"
  else "\x7b " ++ ", ".intercalate parameters ++ " \x7d"

/-- The type of a component's argument, where the form has types. -/
def argumentType (format : Format) (component : String) : String :=
  match format with
  | .jsx => ""
  | .tsx => ": " ++ propsType component

def signature (format : Format) (keyword component : String)
    (parameters : List String) : String :=
  keyword ++ " " ++ component ++ "(" ++ destructure parameters ++
    argumentType format component ++ ") \x7b"

/-- The line that declares a variable of state. -/
def stateLine (target : BindTarget) : Line :=
  ⟨1, "const [" ++ target.name ++ ", " ++ target.setter ++
    "] = React.useState(" ++ target.initial.initializer ++ ");"⟩

def stateLines (internal : List BindTarget) : List Line :=
  if internal.isEmpty then [] else internal.map stateLine ++ [⟨0, ""⟩]

/-- The function of a defined component. -/
def definitionLines (generator : Generator) (definition : Definition) :
    List Line :=
  ⟨1, signature generator.format "function" definition.name
    definition.paramNames⟩ ::
    Markup.renderLines generator.tags definition.body 2 ++
    [⟨1, "\x7d"⟩, ⟨0, ""⟩]

def exportLines (generator : Generator) (program : Program)
    (parameters : List String) (internal : List BindTarget) : List Line :=
  ⟨0, signature generator.format "export default function"
    generator.componentName parameters⟩ ::
    stateLines internal ++
      program.definitions.flatMap generator.definitionLines ++
      Markup.renderLines generator.tags program.body 1 ++ [⟨0, "\x7d"⟩]

def headerLines : List Line :=
  [⟨0, header⟩, ⟨0, "import React from \"react\";"⟩, ⟨0, ""⟩]

def lines (generator : Generator) (program : Program) (scan : Binding.Scan)
    (partition : Binding.Partition) : List Line :=
  let parameters := Binding.parameters scan partition
  headerLines ++ generator.preamble program.definitions parameters ++
    generator.exportLines program parameters partition.internal

def emit (generator : Generator) (program : Program) (scan : Binding.Scan)
    (partition : Binding.Partition) : String :=
  Line.renderAll (generator.lines program scan partition)

/-- What the inference of schemas that were not given reports. -/
def inferenceLog (generator : Generator) (program : Program) : Log :=
  match generator.format with
  | .jsx => []
  | .tsx =>
    (program.definitions.filter fun definition =>
      (generator.givenSchemas definition).isNone).flatMap
      Definition.inferenceLog

/-- What generating a file reports: the inference of schemas that were not
given, then the size. -/
def log (generator : Generator) (program : Program) (scan : Binding.Scan)
    (partition : Binding.Partition) : Log :=
  let count := (generator.lines program scan partition).length
  generator.inferenceLog program ++
    [⟨.debug, .emission, "Emitted " ++ generator.fileName ++ " (" ++
      toString count ++ " lines)"⟩]

/-- The text of the generated file and what is reported on the way, unless a
variable of state cannot start from its value. -/
def generate (generator : Generator) (program : Program) (scan : Binding.Scan)
    (partition : Binding.Partition) : Except DataError String × Log :=
  match partition.internal.mapM fun target => target.initial.initializer? with
  | .ok _ =>
    (.ok (generator.emit program scan partition),
      generator.log program scan partition)
  | .error error => (.error error, generator.inferenceLog program)

end Generator

end ViewCompiler
