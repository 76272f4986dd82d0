import ViewCompiler.Json.Reader
import ViewCompiler.Log
import ViewCompiler.Program.LoadError
import ViewCompiler.Program.Serialized

/-!
# Loading programs

Parser output is loosely shaped JSON data: names may be wrapped in an object,
literals may carry their type, expressions are marked by their type or kind, and
a program may be a list of items, an object with components and a body, or a
single node.  Serialized nodes, definitions and programs may stand anywhere in
it and are read strictly.

Children are loaded before the node around them is looked at, and items in their
order, so the first fault in that order is the error.  An error that would have
to show an integer with too many digits is a fault of its own.  How deep nodes
may be nested is not limited here.
-/

namespace ViewCompiler

/-- The outcome of loading a part of a program. -/
abbrev Load (α : Type) := Except LoadError α

namespace Load

variable {α : Type}

/-- A strict reading, whose only error is that the structure is invalid. -/
def strict (read : Json → Option α) (data : Json) : Load α :=
  match read data with
  | some value => .ok value
  | none => .error (.invalidStructure data)

/-- Refuse data with an error that shows it. -/
def refuse (error : Json → LoadError) (data : Json) : Load α :=
  if data.isPrintable then .error (error data)
  else .error (.shape .unprintable)

/-- Data that may be looked up as a kind: lists and objects may not. -/
def scalar (data : Json) : Load Unit :=
  match data with
  | .array _ | .object _ => .error (.shape (.compoundType data.typeName))
  | _ => .ok ()

/-- The items of data: those of a list, the characters of a text, the names of
an object, and none of empty data. -/
def iterate (data : Json) : Load (List Json) :=
  if data.isEmpty then .ok []
  else
    match data with
    | .array items => .ok items
    | .text s => .ok (s.toList.map fun c => .text (String.singleton c))
    | .object entries => .ok ((Entries.keys entries).map .text)
    | _ => .error (.shape (.noItems data.typeName))

/-- What an object wraps as a name, and other data itself. -/
def unwrapName (data : Json) : Json :=
  match data with
  | .object _ => data.field "value"
  | _ => data

def name (data : Json) (what : String) : Load String :=
  let found := unwrapName data
  match found with
  | .text s => if s.isEmpty then refuse (.notName what) found else .ok s
  | _ => refuse (.notName what) found

/-- What an object wraps as an expression, and other data itself. -/
def unwrapExpression (data : Json) : Json :=
  match data with
  | .object _ => (data.field? "value").getD (data.field "text")
  | _ => data

def expression (data : Json) (what : String) : Load Expression :=
  let found := unwrapExpression data
  match found with
  | .text s =>
    if (Text.trim s).isEmpty then refuse (.notExpression what) found
    else .ok (.of s)
  | _ => refuse (.notExpression what) found

/-- The object is marked as an expression. -/
def isExpression (data : Json) : Bool :=
  (data.field "type").isText "expression" ||
    (data.field "kind").isText "identifier" ||
    (data.field "kind").isText "expression"

/-- A property value: an expression, a literal, or a literal wrapped in an
object. -/
def propValue (data : Json) (what : String) : Load PropValue :=
  match data with
  | .object _ =>
    if isExpression data then (expression data what).map .expression
    else literal ((data.field? "value").getD data)
  | _ => literal data
where
  literal (data : Json) : Load PropValue :=
    match Literal.deserialize data with
    | some value => .ok (.literal value)
    | none => refuse (.unsupportedValue what) data

/-- The properties of an element; those that are null are left out. -/
def props (data : Json) (tag : String) : Load Props :=
  if data.isEmpty then .ok []
  else
    match data with
    | .object entries => collect entries
    | _ => .error (.shape (.noEntries data.typeName))
where
  collect : List (String × Json) → Load Props
    | [] => .ok []
    | (_, .null) :: rest => collect rest
    | (key, data) :: rest => do
      let value ← propValue data ("Property '" ++ key ++ "' of " ++ tag)
      let values ← collect rest
      return (key, value) :: values

/-- The node of parser output, once its children are loaded. -/
def assemble (data : Json) (children : List Node) : Load Node := do
  let type := data.field "type"
  if type.isText "If" then
    return .conditional
      (← expression (data.field "condition") "If condition") children
  else if type.isText "For" then
    let item ← name (data.field "item") "For item"
    let source ←
      expression ((data.field? "list").getD (data.field "source")) "For list"
    return .loop item source children
  else
    let tag ← name type "Node type"
    return .element tag (← props (data.field "props") tag) children

/-- The kinds of serialized nodes. -/
def isNodeKind (data : Json) : Bool :=
  data.isText "element" || data.isText "if" || data.isText "for"

mutual

def node : Json → Load Node
  | .object entries => do
    let kind := (Entries.get? entries "kind").getD .null
    scalar kind
    if isNodeKind kind then strict Node.deserialize (.object entries)
    else
      let children ← nodeField "children" entries
      assemble (.object entries) children
  | data => .error (.notNode data)

def nodeField (key : String) : List (String × Json) → Load (List Node)
  | [] => .ok []
  | (found, value) :: rest =>
    if found = key then nodeList value else nodeField key rest

/-- The nodes that data consists of; the items of other data than a list are no
nodes. -/
def nodeList : Json → Load (List Node)
  | .array items => nodes items
  | data => do
    match ← iterate data with
    | [] => return []
    | first :: _ => .error (.notNode first)

def nodes : List Json → Load (List Node)
  | [] => .ok []
  | item :: rest => do
    let first ← node item
    let others ← nodes rest
    return first :: others

end

def definitionTypes : List String :=
  ["Component", "ComponentDefinition", "component"]

/-- The data describes a definition: by its kind, by its type, or by having
parameters and a body. -/
def isDefinition (data : Json) : Load Bool :=
  match data with
  | .object entries =>
    if (data.field "kind").isText "component" then .ok true
    else do
      let type := data.field "type"
      scalar type
      if definitionTypes.any type.isText then return true
      return Entries.has entries "params" && Entries.has entries "body"
  | _ => .ok false

/-- A parameter, given by its name or by an object that may hold a default. -/
def parameter (data : Json) : Load Parameter :=
  match data with
  | .object _ => do
    let default ← match data.field "default" with
      | .null => pure none
      | given => (propValue given "Parameter default").map some
    let name ← name ((data.field? "name").getD (data.field "value")) "Parameter"
    return { name, default }
  | _ => (name data "Parameter").map fun name => { name }

def definition (data : Json) : Load Definition :=
  match data with
  | .object entries =>
    if (data.field "kind").isText "component" then
      strict Definition.deserialize data
    else do
      let name ← name (data.field "name") "Component name"
      let params ← (← iterate (data.field "params")).mapM parameter
      let body ← nodeField "body" entries
      return { name, params, body }
  | _ => .error (.shape (.noFields data.typeName))

def definitionItems : List Json → Load (List Definition)
  | [] => .ok []
  | item :: rest => do
    if ← isDefinition item then
      let first ← definition item
      let others ← definitionItems rest
      return first :: others
    else definitionItems rest

def nodeItems : List Json → Load (List Node)
  | [] => .ok []
  | item :: rest => do
    if ← isDefinition item then nodeItems rest
    else
      let first ← node item
      let others ← nodeItems rest
      return first :: others

/-- A program given as a list of items. -/
def items (list : List Json) : Load Program := do
  let definitions ← definitionItems list
  let body ← nodeItems list
  return { definitions, body }

/-- A program given as an object with components and a body. -/
def parts (entries : List (String × Json)) : Load Program := do
  let components := (Entries.get? entries "components").getD .null
  let definitions ← (← iterate components).mapM definition
  let body ← nodeField "body" entries
  return { definitions, body }

inductive Form where
  | serialized (data : Json)
  | parts (entries : List (String × Json))
  | items (list : List Json)

def form (data : Json) : Load Form :=
  match data with
  | .object entries => do
    if (data.field "kind").isText "app" then return .serialized data
    if Entries.has entries "body" || Entries.has entries "components" then
      if ← isDefinition data then return .items [data]
      return .parts entries
    return .items [data]
  | .array list => .ok (.items list)
  | _ => .error (.notNodeList data)

end Load

namespace Program

/-- Load a program, with the records that loading logs: only a program given as
items is reported. -/
def loadLogged (data : Json) : Load (Program × Log) := do
  match ← Load.form data with
  | .serialized data => return (← Load.strict Program.deserialize data, [])
  | .parts entries => return (← Load.parts entries, [])
  | .items list =>
    let program ← Load.items list
    let message := "Loaded program with " ++
      toString program.definitions.length ++ " definitions and " ++
      toString program.body.length ++ " top-level nodes"
    return (program, [{ level := .debug, source := .loader, message }])

def load (data : Json) : Load Program :=
  (loadLogged data).map Prod.fst

/-- Load the program that the file at a path holds as a text. -/
def loadText (path text : String) : Load (Program × Log) :=
  match Json.read text with
  | .ok data => loadLogged data
  | .error .malformed => .error (.invalidText path)
  | .error (.longInteger digits) => .error (.shape (.longInteger digits))
  | .error .loneSurrogate => .error (.shape .loneSurrogate)

end Program

end ViewCompiler
