import ViewCompiler.Entries
import ViewCompiler.Expression
import ViewCompiler.Number.Basic

/-!
# Property values

The values that properties, defaults and hook payloads carry.  Besides plain
data there are values that stand for something: a property that was not given, a
function, an expression that only has a value at render time, an object of some
foreign type or with known fields, and the card that describes a property
schema.

Plain data is of the built-in types only, never of a type derived from one of
them, and the keys of a record are texts.  All functions are one value: they are
equal and are shown alike.
-/

namespace ViewCompiler

/-- The shapes that a property schema can describe. -/
inductive Kind where
  | string
  | number
  | boolean
  | function
  | array
  | object
  | enum
  | union
  | any
deriving DecidableEq, Repr

def Kind.name : Kind → String
  | string => "string"
  | number => "number"
  | boolean => "boolean"
  | function => "function"
  | array => "array"
  | object => "object"
  | enum => "enum"
  | union => "union"
  | any => "any"

inductive Value where
  | null
  /-- The property was not given at all. -/
  | missing
  | bool (b : Bool)
  | number (n : Number)
  | text (s : String)
  | list (items : List Value)
  /-- A list of fixed length; never equal to a list. -/
  | tuple (items : List Value)
  | record (entries : List (String × Value))
  | function
  /-- The source of an expression whose value is known at render time only. -/
  | runtime (source : String)
  | expression (e : Expression)
  /-- An object of the named type, known by nothing else. -/
  | foreign (type : String)
  /-- An object of the named type that is known by its fields. -/
  | fields (type : String) (entries : List (String × Value))
  /-- The description of a property schema: its parts, its label, and its limits
  with their fields. -/
  | card (kind : Kind) (required : Bool) (default : Value)
      (description label : String) (limits : Value)
deriving Repr, Inhabited

namespace Value

def int (n : Int) : Value :=
  number (.int n)

/-- The value is null or was not given. -/
def isAbsent : Value → Bool
  | null => true
  | missing => true
  | _ => false

def isNull : Value → Bool
  | null => true
  | _ => false

/-- The kind of a value in messages about a mismatch. -/
def kindName : Value → String
  | null => "null"
  | missing => "null"
  | runtime _ => "expression"
  | bool _ => "boolean"
  | number _ => "number"
  | text _ => "string"
  | list _ => "array"
  | tuple _ => "array"
  | record _ => "object"
  | function => "function"
  | expression _ => "Expression"
  | foreign type => type
  | fields type _ => type
  | card _ _ _ _ _ _ => "Schema"

/-- The name of a value's type in messages. -/
def typeName : Value → String
  | null => "NoneType"
  | missing => "_Missing"
  | runtime _ => "RuntimeValue"
  | bool _ => "bool"
  | number (.int _) => "int"
  | number (.double _) => "float"
  | text _ => "str"
  | list _ => "list"
  | tuple _ => "tuple"
  | record _ => "dict"
  | function => "function"
  | expression _ => "Expression"
  | foreign type => type
  | fields type _ => type
  | card _ _ _ _ _ _ => "Schema"

/-- Null, a missing value, false, zero and empty values. -/
def isEmpty : Value → Bool
  | null => true
  | missing => true
  | bool b => !b
  | number n => n.isZero
  | text s => s.isEmpty
  | list items => items.isEmpty
  | tuple items => items.isEmpty
  | record entries => entries.isEmpty
  | _ => false

/-- The number that a value counts as in a comparison; true is one and false is
zero. -/
def asNumber? : Value → Option Number
  | number n => some n
  | bool b => some (.int (if b then 1 else 0))
  | _ => none

mutual

/-- Equality of values: numbers by value, truth values as the numbers one and
zero, lists and tuples item by item, records without regard to order.  All
functions are one and the same, and an object of a foreign type is not even
equal to another of that type. -/
def same : Value → Value → Bool
  | null, null => true
  | missing, missing => true
  | text s, text t => s == t
  | list items, list others => sameItems items others
  | tuple items, tuple others => sameItems items others
  | record entries, record others =>
    entries.length == others.length && sameEntries entries others
  | function, function => true
  | runtime s, runtime t => s == t
  | expression e, expression f => e == f
  | fields type entries, fields type' entries' =>
    type == type' && entries.length == entries'.length &&
      sameEntries entries entries'
  | card kind required default description _ limits,
      card kind' required' default' description' _ limits' =>
    kind == kind' && required == required' && same default default' &&
      description == description' && same limits limits'
  | a, b =>
    match a.asNumber?, b.asNumber? with
    | some m, some n => m.same n
    | _, _ => false

def sameItems : List Value → List Value → Bool
  | [], [] => true
  | item :: rest, other :: others => same item other && sameItems rest others
  | _, _ => false

/-- Every entry has an equal one under its name. -/
def sameEntries : List (String × Value) → List (String × Value) → Bool
  | [], _ => true
  | (key, value) :: rest, others =>
    (match Entries.get? others key with
      | some other => same value other
      | none => false) && sameEntries rest others

end

/-- The value is one of the allowed ones.  At this level a truth value is only
found as itself, never as a number. -/
def isMember (value : Value) (allowed : List Value) : Bool :=
  allowed.any fun candidate =>
    match candidate, value with
    | bool b, bool c => b == c
    | bool _, _ => false
    | _, bool _ => false
    | candidate, value => candidate.same value

end Value

end ViewCompiler
