import ViewCompiler.Component.Registry
import ViewCompiler.Program.LoadError

/-!
# Properties given as a value

A component may be checked against any value.  A record gives properties, and an
empty value gives none.  A component without declared properties only asks for
names, so it also takes a value that has items: these are undeclared names.  Any
other value is a shape fault.
-/

namespace ViewCompiler

/-- What a value gives to a component. -/
inductive GivenProps where
  | entries (props : Entries Value)
  /-- Undeclared names without values. -/
  | names (names : List Value)

namespace Value

mutual

/-- The type of the first part of a value that keeps it from being a name: a
list or a record. -/
def unnameable? : Value → Option String
  | list items => some (list items).typeName
  | record entries => some (record entries).typeName
  | tuple items => unnameableItem? items
  | fields _ entries => unnameableField? entries
  | card _ _ default _ _ limits => default.unnameable?.or limits.unnameable?
  | _ => none

def unnameableItem? : List Value → Option String
  | [] => none
  | item :: rest => item.unnameable?.or (unnameableItem? rest)

def unnameableField? : List (String × Value) → Option String
  | [] => none
  | (_, value) :: rest => value.unnameable?.or (unnameableField? rest)

end

/-- The items of a value: those of a list, the characters of a text and the
fields of an expression. -/
def items? : Value → Option (List Value)
  | list items => some items
  | tuple items => some items
  | text s => some (s.toList.map fun c => .text (String.singleton c))
  | expression e =>
    some [.tuple [.text "kind", .text e.kind.name],
      .tuple [.text "text", .text e.text]]
  | _ => none

/-- The names that a value consists of. -/
def names (value : Value) : Except ShapeFault (List Value) :=
  match value.items? with
  | none => .error (.noItems value.typeName)
  | some items =>
    match unnameableItem? items with
    | some type => .error (.compoundType type)
    | none => .ok items

/-- What a value gives to a component that has declared properties, or has
none. -/
def givenProps (value : Value) (declared : Bool) :
    Except ShapeFault GivenProps :=
  match value with
  | record entries => .ok (.entries entries)
  | value =>
    if value.isEmpty then .ok (.entries [])
    else if declared then .error (.noFields value.typeName)
    else value.names.map .names

end Value

namespace Validator

def given (validator : Validator) (value : Value) :
    Except ShapeFault GivenProps :=
  value.givenProps !validator.schemas.isEmpty

/-- Check what a value gives: the accepted properties and the undeclared
names. -/
def validateGiven (validator : Validator) :
    GivenProps → Except Failure (AcceptedProps × List Value)
  | .entries props => (validator.validate props).map fun accepted =>
    (accepted, accepted.unknown.map .text)
  | .names names => .ok ({ props := [] }, names)

def givenLog (validator : Validator) : GivenProps → Log
  | .entries props => validator.log props
  | .names names =>
    names.map fun name =>
      ⟨.warning, .registry, unknownMessage validator.component name.display⟩

end Validator

namespace Registry

/-- Check a value as the properties of a component: the accepted properties and
the undeclared names. -/
def validateValue (registry : Registry) (name : String) (value : Value) :
    Except ShapeFault (Except Failure (AcceptedProps × List Value)) :=
  match registry.validator? name with
  | none => .ok (.error (unknownComponent name))
  | some validator => do
    let given ← validator.given value
    return do
      let (accepted, names) ← validator.validateGiven given
      let accepted ← registry.applyRules name value accepted
      return (accepted, names)

def validateValueLog (registry : Registry) (name : String) (value : Value) :
    Log :=
  match registry.validator? name with
  | none => []
  | some validator =>
    match validator.given value with
    | .ok given => validator.givenLog given
    | .error _ => []

end Registry

end ViewCompiler
