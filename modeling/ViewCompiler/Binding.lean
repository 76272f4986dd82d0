import ViewCompiler.Log
import ViewCompiler.Program.Basic
import ViewCompiler.Schema.Failure
import ViewCompiler.Value.Display

/-!
# Bind targets and parameters

An element with a `bind` property reads and writes a variable.  The generated
component owns the variable as state, unless the program refers to both the
variable and its setter, which shows that the caller passes the two down.  All
other names that the program refers to by a plain path are parameters of the
component.

A scan collects the names in use, the bind targets and a warning for every bind
that is no simple identifier, in the order of a walk with the bodies of
definitions first.  Of several elements with one target the first one decides
the initial value.
-/

namespace ViewCompiler

structure BindTarget where
  name : String
  initial : Value := .text ""
deriving Repr

def BindTarget.setter (target : BindTarget) : String :=
  Name.setter target.name

namespace Binding

/-- The name that a property value refers to by a plain path. -/
def reference (value : PropValue) : Option String :=
  match value with
  | .expression e => e.root
  | .literal _ => none

/-- The name that a property refers to: none for a directive, and for a handler
also the name of a literal path. -/
def propReference (key : String) (value : PropValue) : Option String :=
  if Name.isDirective key then none
  else
    match value with
    | .literal (.text s) =>
      if Name.isEventKey key && Name.isPath s then (Expression.of s).root
      else none
    | value => reference value

/-- What a bind property holds: the text of an expression, or a literal. -/
def bindContent : PropValue → Literal
  | .expression e => .text e.text
  | .literal value => value

/-- The bind target of properties, if they have one that is a simple
identifier. -/
def target? (props : Props) : Option String :=
  match (Entries.get? props "bind").map bindContent with
  | some (.text s) => if Name.isTarget s then some s else none
  | _ => none

def initialValue (props : Props) : Value :=
  match Entries.get? props "initial" with
  | some value => value.toValue
  | none =>
    match Entries.get? props "bindDefault" with
    | some value => value.toValue
    | none => .text ""

/-- The warning about a bind that is no simple identifier. -/
def warning (tag : String) (content : Literal) : Failure :=
  let value := content.toValue
  { kind := .malformedBindTarget
    path := tag ++ ".bind"
    message := "'bind' on " ++ tag ++ " requires a simple identifier, found " ++
      value.displayNested ++ "; the element is left unbound"
    value
    component := some tag
    prop := some "bind" }

structure Scan where
  used : List String := []
  targets : List BindTarget := []
  warnings : List Failure := []

namespace Scan

/-- The first target of a name. -/
def target? (scan : Scan) (name : String) : Option BindTarget :=
  scan.targets.find? fun target => target.name == name

/-- The program refers to both the variable and its setter. -/
def passesDown (scan : Scan) (target : BindTarget) : Bool :=
  scan.used.contains target.name && scan.used.contains target.setter

/-- Count a name, if there is one, among the names in use. -/
def use (scan : Scan) (name : Option String) : Scan :=
  match name with
  | some name => { scan with used := scan.used.insert name }
  | none => scan

def useAll (scan : Scan) (props : Props) : Scan :=
  props.foldl (fun scan prop => scan.use (propReference prop.1 prop.2)) scan

/-- Add a target, unless there is one of its name already. -/
def addTarget (scan : Scan) (target : BindTarget) : Scan :=
  if (scan.target? target.name).isSome then scan
  else { scan with targets := scan.targets ++ [target] }

def warn (scan : Scan) (failure : Failure) : Scan :=
  { scan with warnings := scan.warnings ++ [failure] }

/-- Take up the bind of an element: a simple identifier is a target, anything
else is warned about. -/
def bind (scan : Scan) (tag : String) (props : Props) (value : PropValue) :
    Scan :=
  match bindContent value with
  | .text s =>
    if Name.isTarget s then
      scan.addTarget { name := s, initial := initialValue props }
    else scan.warn (warning tag (.text s))
  | content => scan.warn (warning tag content)

/-- Take up a node without the nodes inside it. -/
def take (scan : Scan) : Node → Scan
  | .element tag props _ =>
    match Entries.get? props "bind" with
    | some value => (scan.useAll props).bind tag props value
    | none => scan.useAll props
  | .conditional condition _ => scan.use condition.root
  | .loop item source _ => (scan.use source.root).use (some item)

mutual

/-- Take up a node and then the nodes inside it. -/
def visit (scan : Scan) : Node → Scan
  | .element tag props children =>
    visitAll (scan.take (.element tag props children)) children
  | .conditional condition children =>
    visitAll (scan.take (.conditional condition children)) children
  | .loop item source children =>
    visitAll (scan.take (.loop item source children)) children

/-- Take up nodes one after the other, each with the nodes inside it. -/
def visitAll (scan : Scan) : List Node → Scan
  | [] => scan
  | node :: rest => visitAll (visit scan node) rest

end

def log (scan : Scan) : Log :=
  scan.warnings.map fun failure => ⟨.warning, .binding, failure.message⟩

end Scan

/-- Scan a program: the bodies of its definitions, then its own body. -/
def scan (program : Program) : Scan :=
  let start : Scan := {}
  let defined := program.definitions.foldl
    (fun scan definition => scan.visitAll definition.body) start
  defined.visitAll program.body

/-- The split of bind targets into state of the component and properties from
its caller. -/
structure Partition where
  internal : List BindTarget := []
  external : List BindTarget := []

namespace Partition

def internalNames (partition : Partition) : List String :=
  partition.internal.map BindTarget.name

def externalNames (partition : Partition) : List String :=
  partition.external.map BindTarget.name

def isInternal (partition : Partition) (name : String) : Bool :=
  partition.internalNames.contains name

/-- The names that the component binds for its state. -/
def owned (partition : Partition) : List String :=
  partition.internal.flatMap fun target => [target.name, target.setter]

end Partition

def Scan.classify (scan : Scan) : Partition :=
  { internal := scan.targets.filter fun target => !scan.passesDown target
    external := scan.targets.filter scan.passesDown }

/-- Sort names by code points, each once. -/
def sortNames (names : List String) : List String :=
  names.eraseDups.mergeSort fun a b => decide (a ≤ b)

/-- The parameters of the generated component: the names in use that it does not
own as state. -/
def parameters (scan : Scan) (partition : Partition) : List String :=
  sortNames (scan.used.filter fun name => !partition.owned.contains name)

end Binding

end ViewCompiler
