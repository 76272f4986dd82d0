import ViewCompiler.Component.Validator
import ViewCompiler.Schema.Comparison

/-!
# The component registry

The components that can be checked, in the order in which they were first
registered, and the rules that hold for all of them.  A component that is
registered again keeps its place, and so does a rule.

A rule here is a function of the name and the properties: it neither raises nor
keeps state between calls.  A rule that raises ends the check with its own
exception, which is not represented.
-/

namespace ViewCompiler

/-- A rule for all components: from the component's name and its accepted
properties to a complaint.  No complaint and an empty one mean that the rule is
kept. -/
abbrev Rule := String → Entries Value → Option String

structure Registry where
  components : Entries (Entries Schema) := []
  rules : Entries Rule := []

namespace Registry

/-- Register a component, or replace its schemas. -/
def register (registry : Registry) (name : String) (schemas : Entries Schema) :
    Registry :=
  { registry with components := Entries.set registry.components name schemas }

def registerLog (registry : Registry) (name : String) : Log :=
  if Entries.has registry.components name then
    [⟨.debug, .registry, "Replacing validator for component '" ++ name ++ "'"⟩]
  else []

/-- Add a rule, or replace the one of that name. -/
def addRule (registry : Registry) (name : String) (rule : Rule) : Registry :=
  { registry with rules := Entries.set registry.rules name rule }

def names (registry : Registry) : List String :=
  Entries.keys registry.components

def ruleNames (registry : Registry) : List String :=
  Entries.keys registry.rules

def has (registry : Registry) (name : String) : Bool :=
  Entries.has registry.components name

/-- The registry has no components, whatever its rules. -/
def isEmpty (registry : Registry) : Bool :=
  registry.components.isEmpty

def validator? (registry : Registry) (name : String) : Option Validator :=
  (Entries.get? registry.components name).map fun schemas =>
    { component := name, schemas }

def validators (registry : Registry) : List Validator :=
  registry.components.map fun (name, schemas) => { component := name, schemas }

/-- The failure of a component that is not registered. -/
def unknownComponent (name : String) : Failure :=
  { kind := .unknownComponent
    path := name
    message := "No validator found for component: " ++ name
    value := .text name
    component := some name }

/-- The failure of a component whose properties, given as a value, break a
rule. -/
def violation (name rule complaint : String) (given : Value) : Failure :=
  { kind := .ruleViolation
    path := name
    message := "Global rule '" ++ rule ++ "' failed: " ++ complaint
    value := given
    component := some name }

/-- The first rule that is broken, with its complaint. -/
def brokenRule (name : String) (props : Entries Value) :
    Entries Rule → Option (String × String)
  | [] => none
  | (ruleName, rule) :: rest =>
    match (rule name props).filter (!·.isEmpty) with
    | some complaint => some (ruleName, complaint)
    | none => brokenRule name props rest

/-- Check accepted properties, given as a value, against the rules. -/
def applyRules (registry : Registry) (name : String) (given : Value)
    (accepted : AcceptedProps) : Except Failure AcceptedProps :=
  match brokenRule name accepted.props registry.rules with
  | some (rule, complaint) => .error (violation name rule complaint given)
  | none => .ok accepted

/-- Check the properties of a component; none given is the same as no
properties. -/
def validate (registry : Registry) (name : String)
    (given : Option (Entries Value)) : Except Failure AcceptedProps :=
  match registry.validator? name with
  | none => .error (unknownComponent name)
  | some validator => do
    let accepted ← validator.validate (given.getD [])
    registry.applyRules name ((given.map .record).getD .null) accepted

/-- The comparison that keeps a value from being checked as the properties of a
component. -/
def comparison? (registry : Registry) (name : String) (given : Value) :
    Option Comparison :=
  match registry.validator? name, given with
  | some validator, .record props =>
    Schema.propertiesComparison? validator.schemas props
  | _, _ => none

/-- What a check reports: undeclared properties, even if a rule is broken. -/
def validateLog (registry : Registry) (name : String)
    (given : Option (Entries Value)) : Log :=
  match registry.validator? name with
  | none => []
  | some validator => validator.log (given.getD [])

end Registry

end ViewCompiler
