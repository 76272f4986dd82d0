import ViewCompiler.Json.Basic
import ViewCompiler.Number.Decimal

/-!
# Why a program cannot be loaded

Most errors say which part of the data does not describe a program, and show it.
Data of a wrong shape, such as a number where a list of children is expected, is
a shape fault, and so is data that cannot be read or shown.
-/

namespace ViewCompiler

/-- Data whose shape admits no reading at all. -/
inductive ShapeFault where
  /-- Items are asked of data that has none. -/
  | noItems (type : String)
  /-- Entries are asked of data that is not an object. -/
  | noEntries (type : String)
  /-- A field is asked of data that is not an object. -/
  | noFields (type : String)
  /-- A type or a kind is a list or an object. -/
  | compoundType (type : String)
  /-- An integer of a text has too many digits. -/
  | longInteger (digits : Nat)
  /-- An error is to show an integer that has too many digits. -/
  | unprintable
  /-- A string of a text has half a character in it. -/
  | loneSurrogate
deriving DecidableEq, Repr

def ShapeFault.message : ShapeFault → String
  | noItems type => "'" ++ type ++ "' object is not iterable"
  | noEntries type => "'" ++ type ++ "' object has no attribute 'items'"
  | noFields type => "'" ++ type ++ "' object has no attribute 'get'"
  | compoundType type => "unhashable type: '" ++ type ++ "'"
  | longInteger digits => Decimal.longIntegerMessage digits
  | unprintable => Decimal.unprintableIntegerMessage
  | loneSurrogate => "lone surrogates are not supported"

inductive LoadError where
  | notName (what : String) (found : Json)
  | notExpression (what : String) (found : Json)
  | unsupportedValue (what : String) (found : Json)
  | notNode (found : Json)
  | notNodeList (found : Json)
  /-- A serialized part does not have the fields of its kind. -/
  | invalidStructure (found : Json)
  /-- The file at the path holds no JSON text. -/
  | invalidText (path : String)
  | shape (fault : ShapeFault)
deriving Repr

/-- The wording of a load error.  What is wrong with the structure of a
serialized part is not told in detail. -/
def LoadError.message : LoadError → String
  | notName what found =>
    what ++ " must be a non-empty string, got " ++ found.display
  | notExpression what found =>
    what ++ " must be an expression, got " ++ found.display
  | unsupportedValue what found =>
    what ++ " has unsupported value " ++ found.display
  | notNode found => "Expected a node object, got " ++ found.typeName
  | notNodeList found => "Expected a list of nodes, got " ++ found.typeName
  | invalidStructure _ => "Invalid program structure"
  | invalidText path => path ++ " is not valid JSON"
  | shape fault => fault.message

end ViewCompiler
