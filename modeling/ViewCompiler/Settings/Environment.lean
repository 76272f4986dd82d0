import ViewCompiler.Entries
import ViewCompiler.Files.Location
import ViewCompiler.Text.Blank

/-!
# Environment variables

The variables that settings are taken from.  Each has a default, which also says
whether its value is a text, a flag or a location.  A flag that cannot be read
keeps its default.
-/

namespace ViewCompiler

/-- The environment: the values of variables that are set. -/
abbrev Environment := Entries String

/-- The value of a variable. -/
inductive VariableValue where
  | text (s : String)
  | flag (b : Bool)
  | location (l : Location)
deriving DecidableEq, Repr

def VariableValue.display : VariableValue → String
  | text s => s
  | flag b => if b then "True" else "False"
  | location l => l.text

inductive Variable where
  | mode
  | strictValidation
  | enableTypescript
  | enableDocs
  | outputDir
  | componentName
  | logLevel
deriving DecidableEq, Repr

namespace Variable

def all : List Variable :=
  [mode, strictValidation, enableTypescript, enableDocs, outputDir,
    componentName, logLevel]

def name : Variable → String
  | mode => "UIX_MODE"
  | strictValidation => "UIX_STRICT_VALIDATION"
  | enableTypescript => "UIX_ENABLE_TYPESCRIPT"
  | enableDocs => "UIX_ENABLE_DOCS"
  | outputDir => "UIX_OUTPUT_DIR"
  | componentName => "UIX_COMPONENT_NAME"
  | logLevel => "UIX_LOG_LEVEL"

def ofName? (name : String) : Option Variable :=
  all.find? fun v => v.name == name

/-- The value of a variable that is not set. -/
def default : Variable → VariableValue
  | mode => .text "development"
  | strictValidation => .flag false
  | enableTypescript => .flag false
  | enableDocs => .flag false
  | outputDir => .location { names := ["src"] }
  | componentName => .text "CompiledUI"
  | logLevel => .text "INFO"

def description : Variable → String
  | mode => "Compilation mode: 'development' or 'production'"
  | strictValidation =>
    "Abort compilation on the first property validation failure"
  | enableTypescript => "Emit TSX with generated prop interfaces"
  | enableDocs => "Generate Markdown component documentation"
  | outputDir => "Directory compiled artifacts are written to"
  | componentName => "Name of the generated default export component"
  | logLevel => "Log level name (DEBUG, INFO, WARNING, ERROR)"

def category : Variable → String
  | mode | strictValidation | enableTypescript | enableDocs => "compiler"
  | outputDir | componentName => "output"
  | logLevel => "logging"

/-- The variables of a category, or all of them. -/
def inCategory (category : Option String) : List Variable :=
  match category with
  | none => all
  | some category => all.filter fun v => v.category == category

/-- A flag as it is written in the environment, in any case and with blanks
around it.  Only ASCII letters can spell one of the words. -/
def readFlag (text : String) : Option Bool :=
  let word := Text.trim (text.map Char.toLower)
  if ["true", "1", "yes"].contains word then some true
  else if ["false", "0", "no"].contains word then some false
  else none

/-- A value as it is set in the environment. -/
def read (v : Variable) (text : String) : VariableValue :=
  match v.default with
  | .text _ => .text text
  | .flag b => .flag ((readFlag text).getD b)
  | .location _ => .location (Location.read text)

/-- The value of a variable: its override, else what is set, else its
default. -/
def value (v : Variable) (environment : Environment)
    (override : Option VariableValue := none) : VariableValue :=
  match override with
  | some value => value
  | none =>
    match Entries.get? environment v.name with
    | some text => v.read text
    | none => v.default

def describe (v : Variable) (environment : Environment) : String :=
  v.name ++ "=" ++ (v.value environment).display ++ " (default: " ++
    v.default.display ++ ") - " ++ v.description

def textValue (v : Variable) (environment : Environment) : String :=
  (v.value environment).display

end Variable

namespace Environment

/-- The lines that describe the variables of a category, or all of them. -/
def describe (environment : Environment) (category : Option String) :
    List String :=
  (Variable.inCategory category).map (Variable.describe · environment)

/-- The directory that the environment names for files. -/
def ownDirectory (environment : Environment) : Location :=
  match Variable.outputDir.value environment with
  | .location location => location
  | value => Location.read value.display

/-- The directory that files are written to: the one that a value names, or that
of the environment if the value is null. -/
def outputDirectory (environment : Environment) (override : Value := .null) :
    Except LocationFault Location :=
  if override.isNull then .ok environment.ownDirectory
  else Location.ofValue override

end Environment

end ViewCompiler
