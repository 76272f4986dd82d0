import ViewCompiler.Entries
import ViewCompiler.Number.Basic
import ViewCompiler.Text.Quoted

/-!
# JSON data

Data as a parser hands it over.  The entries of an object keep their order, and
integers stay apart from binary64 numbers.  Besides the type this module says
how a message names the type of such data and how it shows the data.
-/

namespace ViewCompiler

/-- JSON data with ordered objects. -/
inductive Json where
  | null
  | bool (b : Bool)
  | number (n : Number)
  | text (s : String)
  | array (items : List Json)
  | object (entries : List (String × Json))
deriving Repr, Inhabited

namespace Json

/-- The name of a datum's type in messages. -/
def typeName : Json → String
  | null => "NoneType"
  | bool _ => "bool"
  | number (.int _) => "int"
  | number (.double _) => "float"
  | text _ => "str"
  | array _ => "list"
  | object _ => "dict"

/-- The entry of an object under a name; nothing for other data. -/
def field? : Json → String → Option Json
  | object entries, key => Entries.get? entries key
  | _, _ => none

/-- The entry of an object under a name, or null. -/
def field (data : Json) (key : String) : Json :=
  (data.field? key).getD null

/-- Null, false, zero and empty data. -/
def isEmpty : Json → Bool
  | null => true
  | bool b => !b
  | number n => n.isZero
  | text s => s.isEmpty
  | array items => items.isEmpty
  | object entries => entries.isEmpty

def isText (data : Json) (expected : String) : Bool :=
  match data with
  | text s => s == expected
  | _ => false

mutual

/-- A datum as a message shows it. -/
def display : Json → String
  | null => "None"
  | bool b => if b then "True" else "False"
  | number n => n.text
  | text s => Text.quoted s
  | array items => "[" ++ ", ".intercalate (displayItems items) ++ "]"
  | object entries =>
    "\x7b" ++ ", ".intercalate (displayEntries entries) ++ "\x7d"

def displayItems : List Json → List String
  | [] => []
  | item :: rest => item.display :: displayItems rest

def displayEntries : List (String × Json) → List String
  | [] => []
  | (key, value) :: rest =>
    (Text.quoted key ++ ": " ++ value.display) :: displayEntries rest

end

mutual

/-- A message can show the datum: no integer in it has too many digits. -/
def isPrintable : Json → Bool
  | number (.int n) => n.natAbs < Nat.pow 10 Decimal.integerDigitLimit
  | array items => arePrintable items
  | object entries => haveEntriesPrintable entries
  | _ => true

def arePrintable : List Json → Bool
  | [] => true
  | item :: rest => item.isPrintable && arePrintable rest

def haveEntriesPrintable : List (String × Json) → Bool
  | [] => true
  | (_, value) :: rest => value.isPrintable && haveEntriesPrintable rest

end

end Json

end ViewCompiler
