import ViewCompiler.Json.Basic

/-!
# Fields of JSON objects

Looking at a field of an object as data of an expected type.  A field that is
not there or has another type gives an empty answer, never an error.
-/

namespace ViewCompiler.Json

def entries : Json → List (String × Json)
  | object entries => entries
  | _ => []

/-- The items of an array under a name. -/
def items (data : Json) (key : String) : List Json :=
  match data.field key with
  | array items => items
  | _ => []

def text? (data : Json) (key : String) : Option String :=
  match data.field key with
  | text s => some s
  | _ => none

/-- The text under a name, or the empty one. -/
def textAt (data : Json) (key : String) : String :=
  (data.text? key).getD ""

/-- A datum as a text: a text as it is, other data as a message shows it. -/
def shown : Json → String
  | text s => s
  | data => data.display

/-- The items of an array under a name, as texts. -/
def texts (data : Json) (key : String) : List String :=
  (data.items key).map shown

/-- The field under a name is there and neither false nor empty. -/
def flag (data : Json) (key : String) : Bool :=
  !(data.field key).isEmpty

/-- A field that is there and not null. -/
def given? (data : Json) (key : String) : Option Json :=
  match data.field key with
  | null => none
  | value => some value

end ViewCompiler.Json
