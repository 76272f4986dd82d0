import ViewCompiler.Output.Module
import ViewCompiler.Settings.Environment
import ViewCompiler.Text.Identifier
import ViewCompiler.Text.Upper

/-!
# Settings

What a compilation can be asked for.  A request gives values to some of the
settings; the others have defaults.  Every value that its setting does not admit
is reported, in the order of the settings.  Typed output always has the typed
form.
-/

namespace ViewCompiler

inductive Mode where
  | development
  | production
deriving DecidableEq, Repr

namespace Mode

def name : Mode → String
  | development => "development"
  | production => "production"

def ofName? (name : String) : Option Mode :=
  [development, production].find? fun mode => mode.name == name

end Mode

/-- Something of the right type, or a value that is not. -/
inductive Supplied (α : Type) where
  | proper (content : α)
  | other (value : Value)

/-- The schemas that are declared for components.  Whether each of them is a
schema is up to the compiler that takes them. -/
abbrev DeclaredSchemas := Entries (Entries (Supplied Schema))

structure Settings where
  mode : Mode := .development
  format : Format := .jsx
  typescript : Bool := false
  documentation : Bool := false
  strict : Bool := false
  componentName : String := "CompiledUI"
  tagOverrides : Entries String := []
  customSchemas : DeclaredSchemas := []

/-- Values that are asked for. -/
structure SettingsRequest where
  mode : Option Value := none
  format : Option Value := none
  typescript : Option Value := none
  documentation : Option Value := none
  strict : Option Value := none
  componentName : Option Value := none
  tagOverrides : Option Value := none
  customSchemas :
    Option (Supplied (Entries (Supplied (Entries (Supplied Schema))))) := none

inductive SettingFault where
  | notChoice
  | unreadableFlag
  | notFlag
  | notText
  | notTable
  | notComponentName (name : String)
deriving DecidableEq, Repr

/-- A setting, or an entry of one, with a value that it does not admit. -/
structure SettingError where
  setting : String
  fault : SettingFault
deriving DecidableEq, Repr

namespace SettingError

/-- The wording of an error about the name of the component. -/
def nameMessage (name : String) : String :=
  "component_name must be a capitalized identifier, got '" ++ name ++ "'"

end SettingError

/-- A setting, or all errors about it. -/
abbrev Checked (α : Type) := Except (List SettingError) α

namespace Checked

variable {α β : Type}

/-- Both of two settings, or the errors of both. -/
def both (first : Checked α) (second : Checked β) : Checked (α × β) :=
  match first, second with
  | .ok a, .ok b => .ok (a, b)
  | .ok _, .error errors => .error errors
  | .error errors, .ok _ => .error errors
  | .error errors, .error more => .error (errors ++ more)

/-- All settings of a list, or the errors of all. -/
def all : List (Checked α) → Checked (List α)
  | [] => .ok []
  | first :: rest => (both first (all rest)).map fun (a, others) => a :: others

/-- A setting that does not admit its value. -/
def refuse (setting : String) (fault : SettingFault) : Checked α :=
  .error [⟨setting, fault⟩]

/-- A setting that may be left out. -/
def orDefault (default : α) (check : β → Checked α) (value : Option β) :
    Checked α :=
  match value with
  | none => .ok default
  | some value => check value

end Checked

namespace Settings

/-- One of several names. -/
def checkChoice {α : Type} (setting : String) (ofName? : String → Option α)
    (value : Value) : Checked α :=
  match value with
  | .text s =>
    match ofName? s with
    | some choice => .ok choice
    | none => .refuse setting .notChoice
  | _ => .refuse setting .notChoice

/-- The flag that a word stands for, in any case.  Only ASCII letters can spell
one of the words. -/
def flagWord (text : String) : Option Bool :=
  let word := text.map Char.toLower
  if ["1", "on", "t", "true", "y", "yes"].contains word then some true
  else if ["0", "off", "f", "false", "n", "no"].contains word then some false
  else none

/-- The flag that a number stands for. -/
def flagNumber (n : Number) : Option Bool :=
  if n.isZero then some false
  else if n.same (.int 1) then some true
  else none

/-- The number is whole and has 64 bits, so that it counts as a flag that cannot
be read; of the binary64 numbers neither end of the range belongs to it. -/
def isFlagSized : Number → Bool
  | .int n => -Int.pow 2 63 ≤ n && n < Int.pow 2 63
  | .double d =>
    d.isWhole && (Number.int (-Int.pow 2 63)).lt (.double d) &&
      (Number.double d).lt (.int (Int.pow 2 63))

/-- A flag, a word for one, or one of the numbers zero and one. -/
def checkFlag (setting : String) (value : Value) : Checked Bool :=
  match value with
  | .bool b => .ok b
  | .text s =>
    match flagWord s with
    | some b => .ok b
    | none => .refuse setting .unreadableFlag
  | .number n =>
    match flagNumber n with
    | some b => .ok b
    | none =>
      .refuse setting (if isFlagSized n then .unreadableFlag else .notFlag)
  | _ => .refuse setting .notFlag

def checkText (setting : String) (value : Value) : Checked String :=
  match value with
  | .text s => .ok s
  | _ => .refuse setting .notText

/-- The text names a component: an identifier that starts with an upper-case
letter. -/
def isComponentName (text : String) : Bool :=
  Text.isIdentifier text && (text.toList.head?.map Text.isUpper).getD false

def checkComponentName (setting : String) (value : Value) : Checked String :=
  match value with
  | .text s =>
    if isComponentName s then .ok s else .refuse setting (.notComponentName s)
  | _ => .refuse setting .notText

def checkTexts (setting : String) (value : Value) : Checked (Entries String) :=
  match value with
  | .record entries =>
    .all (entries.map fun (key, value) =>
      (checkText (setting ++ "." ++ key) value).map fun text => (key, text))
  | _ => .refuse setting .notTable

/-- A table of tables of schemas. -/
def checkSchemas (setting : String)
    (value : Supplied (Entries (Supplied (Entries (Supplied Schema))))) :
    Checked DeclaredSchemas :=
  match value with
  | .proper components =>
    .all (components.map fun (name, schemas) =>
      match schemas with
      | .proper schemas => .ok (name, schemas)
      | .other _ => .refuse (setting ++ "." ++ name) .notTable)
  | .other _ => .refuse setting .notTable

/-- The settings that a request asks for. -/
def ofRequest (request : SettingsRequest) : Checked Settings := do
  let ((mode, format), (typescript, documentation, strict), componentName,
      tagOverrides, customSchemas) ←
    Checked.both
      (.both
        (.orDefault .development (checkChoice "mode" Mode.ofName?) request.mode)
        (.orDefault .jsx (checkChoice "output_format" Format.ofName?)
          request.format))
      (.both
        (.both
          (.orDefault false (checkFlag "enable_typescript") request.typescript)
          (.both
            (.orDefault false (checkFlag "enable_doc_generation")
              request.documentation)
            (.orDefault false (checkFlag "strict_validation") request.strict)))
        (.both
          (.orDefault "CompiledUI" (checkComponentName "component_name")
            request.componentName)
          (.both (.orDefault [] (checkTexts "tag_map") request.tagOverrides)
            (.orDefault [] (checkSchemas "custom_schemas")
              request.customSchemas))))
  return { mode, format := if typescript then .tsx else format, typescript,
           documentation, strict, componentName, tagOverrides, customSchemas }

end Settings

namespace SettingsRequest

/-- A value of the environment as a value that is asked for. -/
def ofVariable (environment : Environment) (v : Variable) : Value :=
  match v.value environment with
  | .flag b => .bool b
  | value => .text value.display

/-- What the environment asks for. -/
def ofEnvironment (environment : Environment) : SettingsRequest :=
  { mode := some (ofVariable environment .mode)
    strict := some (ofVariable environment .strictValidation)
    typescript := some (ofVariable environment .enableTypescript)
    documentation := some (ofVariable environment .enableDocs)
    componentName := some (ofVariable environment .componentName) }

/-- A value that is asked for, unless it is null. -/
def present (value : Option Value) : Option Value :=
  value.filter (!·.isNull)

def presentSchemas {α : Type} (value : Option (Supplied α)) :
    Option (Supplied α) :=
  match value with
  | some (.other .null) => none
  | value => value

/-- Ask for other values in place of those of a request; null asks for
nothing. -/
def override (request other : SettingsRequest) : SettingsRequest :=
  { mode := (present other.mode).or request.mode
    format := (present other.format).or request.format
    typescript := (present other.typescript).or request.typescript
    documentation := (present other.documentation).or request.documentation
    strict := (present other.strict).or request.strict
    componentName := (present other.componentName).or request.componentName
    tagOverrides := (present other.tagOverrides).or request.tagOverrides
    customSchemas :=
      (presentSchemas other.customSchemas).or request.customSchemas }

end SettingsRequest

/-- The settings of an environment, with other values in place of some. -/
def Environment.settings (environment : Environment)
    (overrides : SettingsRequest := {}) : Checked Settings :=
  Settings.ofRequest
    ((SettingsRequest.ofEnvironment environment).override overrides)

end ViewCompiler
