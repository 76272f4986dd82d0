import ViewCompiler.Component.Registry
import ViewCompiler.Program.Basic

/-!
# Component documentation

A Markdown page on the registered components: first those that the program does
not define, then those that it does.
-/

namespace ViewCompiler.Documentation

def defaultText : Value → String
  | .null => ""
  | .bool b => if b then "true" else "false"
  | value => "`" ++ value.display ++ "`"

def propRow (prop : String) (schema : Schema) : String :=
  "| `" ++ prop ++ "` | " ++ schema.label ++ " | " ++
    (if schema.required then "yes" else "no") ++ " | " ++
    defaultText schema.default ++ " |"

def propTable (schemas : Entries Schema) : List String :=
  if schemas.isEmpty then ["_No properties._"]
  else
    "| Prop | Type | Required | Default |" ::
      "|------|------|----------|---------|" ::
      schemas.map fun (prop, schema) => propRow prop schema

def heading (name : String) : List String :=
  ["### " ++ name, ""]

/-- The section of a component that the program does not define. -/
def builtinSection (name : String) (schemas : Entries Schema) : List String :=
  heading name ++ propTable schemas ++ [""]

/-- The line of a definition's parameters. -/
def parameterLines (definition : Definition) : List String :=
  if definition.params.isEmpty then []
  else
    ["Parameters: " ++
      ", ".intercalate (definition.paramNames.map fun p => "`" ++ p ++ "`"), ""]

/-- The section of a component that the program defines. -/
def customSection (registry : Registry) (name : String)
    (definition : Definition) : List String :=
  heading name ++ parameterLines definition ++
    match registry.validator? name with
    | some validator => propTable validator.schemas ++ [""]
    | none => []

def lines (registry : Registry) (custom : Entries Definition) : List String :=
  ["# UIX Component Documentation", "", "## Built-in Components", ""] ++
    (registry.components.filter fun entry =>
      !Entries.has custom entry.1).flatMap
      (fun (name, schemas) => builtinSection name schemas) ++
    ["## Custom Components", ""] ++
    (if custom.isEmpty then ["_None defined._", ""] else []) ++
    custom.flatMap fun (name, definition) =>
      customSection registry name definition

def page (registry : Registry) (custom : Entries Definition) : String :=
  "\n".intercalate (lines registry custom)

end ViewCompiler.Documentation
