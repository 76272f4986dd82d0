import ViewCompiler.Json.Basic
import ViewCompiler.Value.Basic

/-!
# Values as data

The JSON data of a value.  Lists and tuples are arrays and records are objects.
A value that stands for something else has no data: where data is needed, the
first such part decides, and elsewhere it counts as null.
-/

namespace ViewCompiler.Value

mutual

/-- The data of a value. -/
def toJson : Value → Json
  | bool b => .bool b
  | number n => .number n
  | text s => .text s
  | list items => .array (itemsToJson items)
  | tuple items => .array (itemsToJson items)
  | record entries => .object (entriesToJson entries)
  | _ => .null

def itemsToJson : List Value → List Json
  | [] => []
  | item :: rest => item.toJson :: itemsToJson rest

def entriesToJson : List (String × Value) → List (String × Json)
  | [] => []
  | (key, value) :: rest => (key, value.toJson) :: entriesToJson rest

end

mutual

/-- The type of the first part of a value that has no data. -/
def dataless? : Value → Option String
  | null => none
  | bool _ => none
  | number _ => none
  | text _ => none
  | list items => datalessItem? items
  | tuple items => datalessItem? items
  | record entries => datalessField? entries
  | value => some value.typeName

def datalessItem? : List Value → Option String
  | [] => none
  | item :: rest => item.dataless?.or (datalessItem? rest)

def datalessField? : List (String × Value) → Option String
  | [] => none
  | (_, value) :: rest => value.dataless?.or (datalessField? rest)

end

end ViewCompiler.Value
