import ViewCompiler.Text.Quoted
import ViewCompiler.Value.Basic

/-!
# Values in messages

How messages, labels and documents show a value.  A text stands alone without
quotes; inside a list, a tuple or a record it is quoted.
-/

namespace ViewCompiler.Value

/-- A tuple of the shown items; a single item is followed by a comma. -/
def displayTuple : List String → String
  | [item] => "(" ++ item ++ ",)"
  | items => "(" ++ ", ".intercalate items ++ ")"

def displayBool (b : Bool) : String :=
  if b then "True" else "False"

mutual

/-- A value inside a list, a tuple or a record. -/
def displayNested : Value → String
  | null => "None"
  | missing => "MISSING"
  | bool b => displayBool b
  | number n => n.text
  | text s => Text.quoted s
  | list items => "[" ++ ", ".intercalate (displayItems items) ++ "]"
  | tuple items => displayTuple (displayItems items)
  | record entries =>
    "\x7b" ++ ", ".intercalate (displayEntries entries) ++ "\x7d"
  | function => "<function>"
  | runtime source => "RuntimeValue(expression=" ++ Text.quoted source ++ ")"
  | expression e => e.displayNested
  | foreign type => "<" ++ type ++ " object>"
  | fields type entries =>
    type ++ "(" ++ ", ".intercalate (displayFields entries) ++ ")"
  | card kind required default description _ limits =>
    "Schema(kind=<SchemaKind." ++ kind.name.toUpper ++ ": " ++
      Text.quoted kind.name ++ ">, required=" ++ displayBool required ++
      ", default=" ++ default.displayNested ++ ", constraints=" ++
      limits.displayNested ++ ", description=" ++ Text.quoted description ++ ")"

def displayItems : List Value → List String
  | [] => []
  | item :: rest => item.displayNested :: displayItems rest

def displayEntries : List (String × Value) → List String
  | [] => []
  | (key, value) :: rest =>
    (Text.quoted key ++ ": " ++ value.displayNested) :: displayEntries rest

def displayFields : List (String × Value) → List String
  | [] => []
  | (key, value) :: rest =>
    (key ++ "=" ++ value.displayNested) :: displayFields rest

end

/-- A value that stands alone in a message. -/
def display : Value → String
  | text s => s
  | expression e => e.display
  | value => value.displayNested

end ViewCompiler.Value
