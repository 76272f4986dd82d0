import ViewCompiler.Json.Basic
import ViewCompiler.Json.Quoted

/-!
# Writing JSON texts

Two layouts: on one line, with a space after each comma and colon, and indented
by two spaces with one item to a line.  Numbers that are not finite are written
as `NaN`, `Infinity` and `-Infinity`.
-/

namespace ViewCompiler

def Number.json : Number → String
  | .double .nan => "NaN"
  | .double (.infinite negative) => if negative then "-Infinity" else "Infinity"
  | n => n.text

namespace Json

mutual

/-- A datum on one line. -/
def write : Json → String
  | null => "null"
  | bool b => if b then "true" else "false"
  | number n => n.json
  | text s => quote s
  | array items => "[" ++ ", ".intercalate (writeItems items) ++ "]"
  | object entries =>
    "\x7b" ++ ", ".intercalate (writeEntries entries) ++ "\x7d"

def writeItems : List Json → List String
  | [] => []
  | item :: rest => item.write :: writeItems rest

def writeEntries : List (String × Json) → List String
  | [] => []
  | (key, value) :: rest =>
    (quote key ++ ": " ++ value.write) :: writeEntries rest

end

/-- Lines between two brackets, one further in than the brackets. -/
def block (opening closing : String) (depth : Nat) (lines : List String) :
    String :=
  let pad := fun (level : Nat) => String.ofList (List.replicate (2 * level) ' ')
  if lines.isEmpty then opening ++ closing
  else
    opening ++ "\n" ++ ",\n".intercalate (lines.map (pad (depth + 1) ++ ·)) ++
      "\n" ++ pad depth ++ closing

mutual

/-- A datum with one item to a line, where the datum itself stands at the given
depth. -/
def writeIndented (depth : Nat) : Json → String
  | array items => block "[" "]" depth (indentItems (depth + 1) items)
  | object entries =>
    block "\x7b" "\x7d" depth (indentEntries (depth + 1) entries)
  | data => data.write

def indentItems (depth : Nat) : List Json → List String
  | [] => []
  | item :: rest => item.writeIndented depth :: indentItems depth rest

def indentEntries (depth : Nat) : List (String × Json) → List String
  | [] => []
  | (key, value) :: rest =>
    (quote key ++ ": " ++ value.writeIndented depth) :: indentEntries depth rest

end

end Json

end ViewCompiler
