import ViewCompiler.Compilation.Event
import ViewCompiler.Compilation.Result
import ViewCompiler.Component.Registry
import ViewCompiler.Program.Basic

/-!
# Checks of elements

Every element whose component is registered is checked, in the order of a walk
with the bodies of definitions first.  Strict compilation stops at the first
check that fails; otherwise all checks are made and their failures are reported.
-/

namespace ViewCompiler

/-- A checked element: its component, the outcome, and what the check logged. -/
structure Check where
  component : String
  verdict : Except Failure AcceptedProps
  log : Log := []

namespace Check

/-- The properties that are checked: directives are left out, and an expression
has a value at render time only. -/
def input (props : Props) : Entries Value :=
  (props.filter fun (key, _) => !Name.isDirective key).map fun (key, value) =>
    match value with
    | .expression e => (key, .runtime e.text)
    | .literal literal => (key, literal.toValue)

def run (registry : Registry) (component : String) (props : Props) : Check :=
  { component
    verdict := registry.validate component (some (input props))
    log := registry.validateLog component (some (input props)) }

/-- The check of a node, if it is an element of a registered component. -/
def ofNode (registry : Registry) : Node → Option Check
  | .element tag props _ =>
    if registry.has tag then some (run registry tag props) else none
  | _ => none

def all (registry : Registry) (program : Program) : List Check :=
  program.nodes.filterMap (ofNode registry)

def failure? (check : Check) : Option Failure :=
  match check.verdict with
  | .ok _ => none
  | .error failure => some failure

/-- The checks up to the first one that fails, with that one. -/
def untilFailure : List Check → List Check
  | [] => []
  | check :: rest =>
    if check.failure?.isSome then [check] else check :: untilFailure rest

def performed (strict : Bool) (checks : List Check) : List Check :=
  if strict then untilFailure checks else checks

def firstError : List Check → Option CompilationError
  | [] => none
  | check :: rest =>
    match check.failure? with
    | some failure => some ⟨check.component, failure⟩
    | none => firstError rest

/-- The warnings about undeclared properties. -/
def warnings (check : Check) : List String :=
  match check.verdict with
  | .ok accepted =>
    accepted.unknown.map (Validator.unknownMessage check.component)
  | .error _ => []

/-- The records of a failure that does not stop the compilation. -/
def toleratedLog (component : String) (failure : Failure) : Log :=
  [⟨.error, .compiler, CompilationError.report component failure⟩,
    ⟨.warning, .compiler, "Continuing compilation despite validation error"⟩]

/-- What hooks are told of a failure. -/
def failurePayload (component : String) (failure : Failure) : Payload :=
  [("kind", .text "validation_error"), ("component_name", .text component),
    ("error", .failure failure)]

def events (strict : Bool) (check : Check) : List Event :=
  Event.ofLog check.log ++
    match check.failure? with
    | none => []
    | some failure =>
      .reached .onValidationError (failurePayload check.component failure) ::
        if strict then []
        else Event.ofLog (toleratedLog check.component failure)

end Check

end ViewCompiler
