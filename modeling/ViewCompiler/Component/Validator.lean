import ViewCompiler.Log
import ViewCompiler.Schema.Validation
import ViewCompiler.Value.Display

/-!
# Component validators

A validator checks the properties of one component against a schema for each
declared property.  The first property that fails decides; properties that are
not declared never fail, but are listed.
-/

namespace ViewCompiler

/-- The properties of a component that were accepted, with the paths of dropped
entries and the names that are not declared. -/
structure AcceptedProps where
  props : Entries Value
  dropped : List String := []
  unknown : List String := []

structure Validator where
  component : String
  schemas : Entries Schema

namespace Validator

def propNames (validator : Validator) : List String :=
  Entries.keys validator.schemas

def requiredProps (validator : Validator) : List String :=
  Entries.keys (validator.schemas.filter fun entry => entry.2.required)

def optionalProps (validator : Validator) : List String :=
  Entries.keys (validator.schemas.filter fun entry => !entry.2.required)

/-- The validator as reports show it. -/
def display (validator : Validator) : String :=
  "ComponentValidator(" ++ Text.quoted validator.component ++ ", props=" ++
    (Value.list (validator.propNames.map .text)).display ++ ")"

/-- A failure with the component and the property that it is about. -/
def locate (component prop : String) (failure : Failure) : Failure :=
  { failure with component := some component, prop := some prop }

/-- Check the declared properties in order: the properties that are kept with
all dropped paths, or the first failure. -/
def checkProps (component : String) : List (String × Schema) → Entries Value →
    Except Failure (Entries Value × List String)
  | [], _ => .ok ([], [])
  | (prop, schema) :: rest, props =>
    match schema.validate ((Entries.get? props prop).getD .missing) prop with
    | .error failure => .error (locate component prop failure)
    | .ok accepted => do
      let (kept, dropped) ← checkProps component rest props
      if Entries.has props prop || !accepted.value.isNull then
        return ((prop, accepted.value) :: kept, accepted.dropped ++ dropped)
      else return (kept, accepted.dropped ++ dropped)

/-- The names of given properties that are not declared. -/
def unknownProps (validator : Validator) (props : Entries Value) :
    List String :=
  (Entries.keys props).filter fun prop => !Entries.has validator.schemas prop

def validate (validator : Validator) (props : Entries Value) :
    Except Failure AcceptedProps := do
  let (kept, dropped) ← checkProps validator.component validator.schemas props
  return { props := kept, dropped, unknown := validator.unknownProps props }

def unknownMessage (component prop : String) : String :=
  "Unknown prop '" ++ prop ++ "' passed to component '" ++ component ++ "'"

def log (validator : Validator) (props : Entries Value) : Log :=
  match validator.validate props with
  | .ok accepted =>
    accepted.unknown.map fun prop =>
      ⟨.warning, .registry, unknownMessage validator.component prop⟩
  | .error _ => []

end Validator

end ViewCompiler
