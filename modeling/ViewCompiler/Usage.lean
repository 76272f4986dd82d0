import ViewCompiler.Log
import ViewCompiler.Program.Basic
import ViewCompiler.Schema.Basic
import ViewCompiler.Text.Blank
import ViewCompiler.Text.Word

/-!
# Usage of parameters

How the body of a component uses a parameter is evidence for the values that the
parameter takes.  Each node contributes evidence on its own: a property whose
expression refers to the parameter contributes at most one piece, a condition
that refers to it makes its use conditional, and a loop over it makes it an
array.  The evidence of a body is that of its nodes together, and a schema is
read off it.

A reference is an occurrence of the name that is neither part of a longer name
nor a member of something else.
-/

namespace ViewCompiler

/-- What a use of a parameter shows about it. -/
inductive Evidence where
  | text
  | number
  | boolean
  | array
  | function
  | conditional
deriving DecidableEq, Repr

structure UsageProfile where
  usedAsText : Bool := false
  usedAsNumber : Bool := false
  usedAsBoolean : Bool := false
  usedAsArray : Bool := false
  usedAsFunction : Bool := false
  hasDefaultValue : Bool := false
  conditionalUsage : Bool := false
deriving DecidableEq, Repr

namespace Usage

/-- Property keys whose value is a flag. -/
def booleanKeys : List String :=
  ["disabled", "required", "checked", "hidden", "readOnly", "selected", "open",
    "visible", "multiple", "autoFocus"]

/-- Members that only arrays are asked for. -/
def arrayMembers : List String :=
  ["map", "filter", "length", "forEach", "reduce", "some", "every", "find",
    "slice", "join", "includes"]

/-- Methods that only texts are asked for. -/
def textMethods : List String :=
  ["toString", "toUpperCase", "toLowerCase", "trim", "split", "charAt",
    "substring", "padStart", "padEnd"]

/-- The ways to cut characters in two, the front part read backwards and put
before the given one. -/
def cutsAfter : List Char → List Char → List (List Char × List Char)
  | front, [] => [(front, [])]
  | front, c :: rest => (front, c :: rest) :: cutsAfter (c :: front) rest

/-- The ways to cut a text in two, the front part read backwards. -/
def cuts (text : String) : List (List Char × List Char) :=
  cutsAfter [] text.toList

/-- What follows a word at the front of some characters. -/
def afterWord : List Char → List Char → Option (List Char)
  | [], chars => some chars
  | c :: word, d :: chars => if c = d then afterWord word chars else none
  | _ :: _, [] => none

/-- Characters that continue a name. -/
def continuesName (c : Char) : Bool :=
  Text.isWord c || c == '$'

/-- Characters after which a name is part of something longer. -/
def precedesName (c : Char) : Bool :=
  continuesName c || c == '.'

/-- The references to a name in a text: what stands before each, read backwards,
and what follows. -/
def references (name text : String) : List (List Char × List Char) :=
  (cuts text).filterMap fun (front, back) =>
    if front.head?.any precedesName then none
    else
      match afterWord name.toList back with
      | some rest =>
        if rest.head?.any continuesName then none else some (front, rest)
      | none => none

def refersTo (name text : String) : Bool :=
  !(references name text).isEmpty

/-- What follows the dot of a member access, plain or optional. -/
def memberOf : List Char → Option (List Char)
  | '.' :: rest => some rest
  | '?' :: '.' :: rest => some rest
  | _ => none

/-- A bracket opens here, after white space at most. -/
def opensCall (chars : List Char) : Bool :=
  (Text.dropBlanks chars).head? == some '('

/-- One of the members is accessed here, and its name ends there. -/
def accesses (members : List String) (chars : List Char) : Bool :=
  (memberOf chars).any fun rest =>
    members.any fun member =>
      (afterWord member.toList rest).any fun after =>
        !after.head?.any Text.isWord

/-- One of the methods is called here. -/
def calls (methods : List String) (chars : List Char) : Bool :=
  (memberOf chars).any fun rest =>
    methods.any fun method => (afterWord method.toList rest).any opensCall

/-- Operators of arithmetic and order. -/
def isOperator (c : Char) : Bool :=
  c == '-' || c == '+' || c == '*' || c == '/' || c == '%' || c == '<' ||
    c == '>'

/-- An operator stands here, after white space at most. -/
def meetsOperator (chars : List Char) : Bool :=
  (Text.dropBlanks chars).head?.any isOperator

/-- The text compares for equality or inequality. -/
def comparesEqual (text : String) : Bool :=
  (cuts text).any fun (_, back) =>
    match back with
    | first :: '=' :: _ => first == '!' || first == '='
    | _ => false

/-- The evidence of an expression that is more than the name itself. -/
def compoundEvidence (name text : String) : Option Evidence :=
  let uses := references name text
  if uses.any fun (_, rest) => accesses arrayMembers rest then some .array
  else if uses.any fun (_, rest) => calls textMethods rest then some .text
  else if comparesEqual text then some .boolean
  else if uses.any fun (_, rest) => opensCall rest then some .function
  else if uses.any fun (front, rest) =>
      meetsOperator rest || meetsOperator front ||
        calls ["toFixed"] rest then some .number
  else none

/-- The evidence of a property. -/
def propEvidence (name key : String) (value : PropValue) : Option Evidence :=
  match value with
  | .literal _ => none
  | .expression e =>
    if !refersTo name e.text then none
    else if key == "text" && e.text == name then some .text
    else if Name.isEventKey key then some .function
    else if booleanKeys.contains key then some .boolean
    else if e.text == name then none
    else compoundEvidence name e.text

/-- The evidence of a node by itself, without the nodes inside it. -/
def nodeEvidence (name : String) : Node → List Evidence
  | .element _ props _ =>
    props.filterMap fun (key, value) => propEvidence name key value
  | .conditional condition _ =>
    if refersTo name condition.text then [.conditional] else []
  | .loop _ source _ => if source.text == name then [.array] else []

def evidence (name : String) (body : List Node) : List Evidence :=
  (Node.walkAll body).flatMap (nodeEvidence name)

/-- How a body uses a parameter. -/
def profile (name : String) (body : List Node) (hasDefault : Bool) :
    UsageProfile :=
  let found := evidence name body
  { usedAsText := found.contains .text
    usedAsNumber := found.contains .number
    usedAsBoolean := found.contains .boolean
    usedAsArray := found.contains .array
    usedAsFunction := found.contains .function
    hasDefaultValue := hasDefault
    conditionalUsage := found.contains .conditional }

end Usage

namespace UsageProfile

/-- The flags of a profile in order. -/
def flags (profile : UsageProfile) : List Bool :=
  [profile.usedAsText, profile.usedAsNumber, profile.usedAsBoolean,
    profile.usedAsArray, profile.usedAsFunction, profile.hasDefaultValue,
    profile.conditionalUsage]

/-- The profile with the given flags in order; those that are left out are
off. -/
def ofFlags (flags : List Bool) : UsageProfile :=
  let flag (i : Nat) : Bool := flags.getD i false
  { usedAsText := flag 0
    usedAsNumber := flag 1
    usedAsBoolean := flag 2
    usedAsArray := flag 3
    usedAsFunction := flag 4
    hasDefaultValue := flag 5
    conditionalUsage := flag 6 }

/-- The shape that a profile implies. -/
def kind (profile : UsageProfile) : Kind :=
  if profile.usedAsText then .string
  else if profile.usedAsNumber then .number
  else if profile.usedAsBoolean then .boolean
  else if profile.usedAsArray then .array
  else if profile.usedAsFunction then .function
  else .any

/-- The schema that a profile implies.  A parameter that has a default or is
used conditionally may be left out, and then its default stands in. -/
def schema (profile : UsageProfile) (default : Value) : Schema :=
  let shape := match profile.kind with
    | .array => Schema.array {} (some (.any {})) {}
    | kind => Schema.bare kind {}
  if profile.hasDefaultValue || profile.conditionalUsage then
    shape.optional default
  else shape.require

end UsageProfile

namespace Definition

def usage (definition : Definition) (parameter : Parameter) : UsageProfile :=
  Usage.profile parameter.name definition.body parameter.default.isSome

/-- A schema for every parameter, read off its use. -/
def inferredSchemas (definition : Definition) : Entries Schema :=
  Entries.ofPairs <| definition.params.map fun parameter =>
    (parameter.name, (definition.usage parameter).schema parameter.defaultValue)

/-- What inference reports. -/
def inferenceLog (definition : Definition) : Log :=
  definition.params.map fun parameter =>
    let profile := definition.usage parameter
    let required :=
      if (profile.schema parameter.defaultValue).required then "True"
      else "False"
    { level := .debug
      source := .usage
      message := "Inferred " ++ definition.name ++ "." ++ parameter.name ++
        ": " ++ profile.kind.name ++ " (required=" ++ required ++ ")" }

end Definition

end ViewCompiler
