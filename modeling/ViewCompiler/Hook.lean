import ViewCompiler.Compilation.Payload
import ViewCompiler.Log
import ViewCompiler.Value.Display

/-!
# Hooks

Hooks watch a compilation at four points.  The hooks of a point run one after
the other in the order of their registration, and hand one payload on from each
to the next.  A hook that fails is reported and passed over.  One that raises
what is not caught, a request to end the program or an error without a wording,
ends the run there, and with it the compilation.

A hook is a function that is known by its name, and what it does is looked up
when it is called: it reads the payload and sets entries of it, registers hooks
or clears all of them, and at last answers or raises.  What it does next may
depend on what it has read, and a hook may register itself.  The hooks that run
at a point are those that were registered there when the point was reached.

A hook keeps nothing from one call to the next, and the data in its payload are
not changed from inside.
-/

namespace ViewCompiler

inductive HookPoint where
  | beforeCompile
  | onComponent
  | onValidationError
  | afterOutput
deriving DecidableEq, Repr

namespace HookPoint

def name : HookPoint → String
  | beforeCompile => "before_compile"
  | onComponent => "on_component"
  | onValidationError => "on_validation_error"
  | afterOutput => "after_output"

def all : List HookPoint :=
  [beforeCompile, onComponent, onValidationError, afterOutput]

def ofValue? (value : Value) : Option HookPoint :=
  match value with
  | .text s => all.find? fun point => point.name == s
  | _ => none

end HookPoint

/-- Why a hook cannot be registered. -/
inductive HookError where
  | notCallable (point : Value) (type : String)
  | unknownPoint (point : Value)

def HookError.message : HookError → String
  | notCallable point type =>
    "Hook for '" ++ point.display ++ "' must be callable, got " ++ type
  | unknownPoint point =>
    "Unknown hook point '" ++ point.display ++ "'. Available: " ++
      ", ".intercalate (HookPoint.all.map HookPoint.name)

/-- What is raised and not caught. -/
structure Raised where
  kind : String
  message : String
deriving DecidableEq, Repr

inductive Hook where
  /-- A value that does nothing; only a function can be called. -/
  | inert (value : Value)
  | function (name : String)

/-- What a hook does when it is called. -/
inductive HookAction where
  | answer (datum : Datum)
  /-- Raise an error, which is caught and reported. -/
  | fail (reason : String)
  /-- Raise what is not caught, or an error that cannot be reported. -/
  | escape (raised : Raised)
  | read (next : Payload → HookAction)
  | set (key : String) (datum : Datum) (next : HookAction)
  /-- Register a hook at the point that a value names. -/
  | register (point : Value) (hook : Hook)
      (refused : HookError → HookAction) (next : HookAction)
  | clear (next : HookAction)

structure HookFunction where
  /-- What calls of the function are noted under. -/
  id : Value := .null
  action : HookAction := .answer (.value .null)

/-- The type of a value that cannot be called. -/
def Hook.inertType? : Hook → Option String
  | inert .function => none
  | inert value => some value.typeName
  | function _ => none

structure HookCall where
  id : Value
  payload : Payload

/-- The registered hooks, oldest first, and what each function does. -/
structure Hooks where
  functions : String → HookFunction := fun _ => {}
  registered : List (HookPoint × Hook) := []

namespace Hooks

def hooksAt (hooks : Hooks) (point : HookPoint) : List Hook :=
  (hooks.registered.filter fun entry => entry.1 = point).map Prod.snd

def add (hooks : Hooks) (point : HookPoint) (hook : Hook) : Hooks :=
  { hooks with registered := hooks.registered ++ [(point, hook)] }

def clear (hooks : Hooks) : Hooks :=
  { hooks with registered := [] }

def idOf (hooks : Hooks) : Hook → Value
  | .inert _ => .null
  | .function name => (hooks.functions name).id

/-- What is noted of a call; of a function that does nothing, nothing is. -/
def noted (hooks : Hooks) (hook : Hook) (payload : Payload) : List HookCall :=
  match hook with
  | .inert _ => []
  | .function name => [{ id := (hooks.functions name).id, payload }]

def point (value : Value) : Except HookError HookPoint :=
  match HookPoint.ofValue? value with
  | some point => .ok point
  | none => .error (.unknownPoint value)

/-- Register a hook at the point that a value names. -/
def register (hooks : Hooks) (value : Value) (hook : Hook) :
    Except HookError Hooks :=
  match hook.inertType? with
  | some type => .error (.notCallable value type)
  | none => (point value).map fun point => hooks.add point hook

/-- What reading an attribute of a plugin gives, or raises. -/
abbrev Attribute := Except Raised Hook

/-- Register the attributes that bear the names of points and can be called, up
to the first that raises: the hooks, and how many were registered. -/
def registerPoints (attributes : Entries Attribute) :
    List HookPoint → Hooks → Nat → Hooks × Except Raised Nat
  | [], hooks, count => (hooks, .ok count)
  | point :: rest, hooks, count =>
    match Entries.get? attributes point.name with
    | none => registerPoints attributes rest hooks count
    | some (.error raised) => (hooks, .error raised)
    | some (.ok hook) =>
      if hook.inertType?.isNone then
        registerPoints attributes rest (hooks.add point hook) (count + 1)
      else registerPoints attributes rest hooks count

def registerPlugin (hooks : Hooks) (attributes : Entries Attribute) :
    Hooks × Except Raised Nat :=
  registerPoints attributes HookPoint.all hooks 0

def pluginLog (name : String) (count : Nat) : Log :=
  if count = 0 then
    [⟨.warning, .hooks,
      "Plugin " ++ name ++ " exposes no known hook methods"⟩]
  else []

/-- How a call ends. -/
inductive Outcome where
  | answered (datum : Datum)
  | failed (reason : String)
  | escaped (raised : Raised)

/-- What a call leaves. -/
structure Called where
  hooks : Hooks
  payload : Payload
  outcome : Outcome

def act : HookAction → Hooks → Payload → Called
  | .answer datum, hooks, payload =>
    { hooks, payload, outcome := .answered datum }
  | .fail reason, hooks, payload =>
    { hooks, payload, outcome := .failed reason }
  | .escape raised, hooks, payload =>
    { hooks, payload, outcome := .escaped raised }
  | .read next, hooks, payload => act (next payload) hooks payload
  | .set key datum next, hooks, payload =>
    act next hooks (Entries.set payload key datum)
  | .register point hook refused next, hooks, payload =>
    match hooks.register point hook with
    | .ok registered => act next registered payload
    | .error error => act (refused error) hooks payload
  | .clear next, hooks, payload => act next hooks.clear payload

def call (hooks : Hooks) (payload : Payload) : Hook → Called
  | .inert _ => { hooks, payload, outcome := .answered (.value .null) }
  | .function name => act (hooks.functions name).action hooks payload

/-- What running the hooks of a point leaves. -/
structure Execution where
  hooks : Hooks
  payload : Payload
  answers : List Datum := []
  calls : List HookCall := []
  log : Log := []
  /-- What ended the run before its time. -/
  ended : Option Raised := none

def failureRecord (point : HookPoint) (reason : String) : LogRecord :=
  ⟨.error, .hooks, "Plugin hook '" ++ point.name ++ "' failed: " ++ reason⟩

/-- Call hooks one after the other, up to one that raises what is not caught. -/
def callAll (point : HookPoint) : List Hook → Hooks → Payload → Execution
  | [], hooks, payload => { hooks, payload }
  | hook :: rest, hooks, payload =>
    let called := call hooks payload hook
    let calls := hooks.noted hook payload
    let others := callAll point rest called.hooks called.payload
    match called.outcome with
    | .answered datum =>
      { others with
        answers := datum :: others.answers
        calls := calls ++ others.calls }
    | .failed reason =>
      { others with
        calls := calls ++ others.calls
        log := failureRecord point reason :: others.log }
    | .escaped raised =>
      { hooks := called.hooks
        payload := called.payload
        calls
        ended := some raised }

/-- Run the hooks that are registered at a point. -/
def execute (hooks : Hooks) (point : HookPoint) (payload : Payload) :
    Execution :=
  callAll point (hooks.hooksAt point) hooks payload

end Hooks

end ViewCompiler
