import ViewCompiler.Value.Basic

/-!
# Validation failures

A failure says which field was refused and why.  A component validator adds the
component and the property that the field belongs to.
-/

namespace ViewCompiler

inductive FailureKind where
  | missingRequired
  | typeMismatch
  | constraintViolation
  | unknownComponent
  | unionExhausted
  | malformedBindTarget
  | ruleViolation
deriving DecidableEq, Repr

namespace FailureKind

def name : FailureKind → String
  | missingRequired => "missing_required"
  | typeMismatch => "type_mismatch"
  | constraintViolation => "constraint_violation"
  | unknownComponent => "unknown_component"
  | unionExhausted => "union_exhausted"
  | malformedBindTarget => "malformed_bind_target"
  | ruleViolation => "rule_violation"

def ofName? (name : String) : Option FailureKind :=
  let kinds : List FailureKind :=
    [.missingRequired, .typeMismatch, .constraintViolation, .unknownComponent,
      .unionExhausted, .malformedBindTarget, .ruleViolation]
  kinds.find? fun kind => kind.name == name

/-- What is said of a name, as messages show it, that no class has. -/
def unknown (shown : String) : String :=
  shown ++ " is not a valid FailureKind"

end FailureKind

structure Failure where
  kind : FailureKind
  /-- The failing field, such as `user.tags[2]`. -/
  path : String
  message : String
  /-- The offending value. -/
  value : Value := .null
  /-- The expected and the actual kind, for a mismatch. -/
  expected : Option String := none
  actual : Option String := none
  /-- The message of every alternative, for a union. -/
  alternatives : List String := []
  component : Option String := none
  prop : Option String := none

/-- The message with the component and the property that it is about. -/
def Failure.describe (failure : Failure) : String :=
  let component := failure.component.getD ""
  let prop := failure.prop.getD ""
  if component.isEmpty then failure.message
  else if prop.isEmpty then component ++ ": " ++ failure.message
  else "Invalid prop '" ++ prop ++ "' for component '" ++ component ++ "': " ++
    failure.message

end ViewCompiler
