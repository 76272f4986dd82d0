import ViewCompiler.Json.Basic
import ViewCompiler.Program.Basic

/-!
# Serialized programs

A program can be written as JSON data and read back.  Every object names its
kind, an expression is an object with its kind and text, and a literal is plain
data.  Reading is strict about the fields that it knows: a name has to be a text
that is not empty, lists have to be lists, and null is accepted only as the
default of a parameter.  A field that has a default may be left out, and fields
of other names are ignored.
-/

namespace ViewCompiler

/-- The datum is a field that was left out, or the given text. -/
def Json.isKind (data : Option Json) (name : String) : Bool :=
  match data with
  | none => true
  | some (.text s) => s == name
  | some _ => false

/-- A text that is not empty. -/
def Json.nonEmptyText? : Option Json → Option String
  | some (.text s) => if s.isEmpty then none else some s
  | _ => none

def Expression.serialize (expression : Expression) : Json :=
  .object [("kind", .text expression.kind.name),
    ("text", .text expression.text)]

def Expression.deserialize : Json → Option Expression
  | .object entries =>
    match Entries.get? entries "text", Entries.get? entries "kind" with
    | some (.text text), none => some ⟨.compound, text⟩
    | some (.text text), some (.text kind) =>
      (ExpressionKind.ofName? kind).map fun kind => ⟨kind, text⟩
    | _, _ => none
  | _ => none

def Literal.serialize : Literal → Json
  | bool b => .bool b
  | number n => .number n
  | text s => .text s

def Literal.deserialize : Json → Option Literal
  | .bool b => some (.bool b)
  | .number n => some (.number n)
  | .text s => some (.text s)
  | _ => none

namespace PropValue

def serialize : PropValue → Json
  | literal value => value.serialize
  | expression e => e.serialize

def deserialize (data : Json) : Option PropValue :=
  match Literal.deserialize data with
  | some value => some (literal value)
  | none => (Expression.deserialize data).map expression

end PropValue

/-- Read properties; a field that was left out is no properties. -/
def Props.deserialize : Option Json → Option Props
  | none => some []
  | some (.object entries) =>
    entries.mapM fun entry =>
      (PropValue.deserialize entry.2).map fun value => (entry.1, value)
  | some _ => none

namespace Node

mutual

def serialize : Node → Json
  | element tag props children =>
    .object
      [("kind", .text "element"), ("tag", .text tag),
        ("props", .object (Entries.mapValues PropValue.serialize props)),
        ("children", .array (serializeAll children))]
  | conditional condition children =>
    .object
      [("kind", .text "if"), ("condition", condition.serialize),
        ("children", .array (serializeAll children))]
  | loop item source children =>
    .object
      [("kind", .text "for"), ("item", .text item),
        ("source", source.serialize),
        ("children", .array (serializeAll children))]

def serializeAll : List Node → List Json
  | [] => []
  | node :: rest => node.serialize :: serializeAll rest

end

/-- The node of a kind with the given fields and children. -/
def assemble (entries : List (String × Json)) (children : List Node) :
    Option Node :=
  match Entries.get? entries "kind" with
  | some (.text "element") => do
    let tag ← Json.nonEmptyText? (Entries.get? entries "tag")
    let props ← Props.deserialize (Entries.get? entries "props")
    return element tag props children
  | some (.text "if") => do
    let condition ←
      (Entries.get? entries "condition").bind Expression.deserialize
    return conditional condition children
  | some (.text "for") => do
    let item ← Json.nonEmptyText? (Entries.get? entries "item")
    let source ← (Entries.get? entries "source").bind Expression.deserialize
    return loop item source children
  | _ => none

mutual

def deserialize : Json → Option Node
  | .object entries => do
    let children ← deserializeField "children" entries
    assemble entries children
  | _ => none

/-- Read the nodes of a list field; a field that was left out is no nodes. -/
def deserializeField (name : String) : List (String × Json) → Option (List Node)
  | [] => some []
  | (key, value) :: rest =>
    if key = name then deserializeList value else deserializeField name rest

def deserializeList : Json → Option (List Node)
  | .array items => deserializeAll items
  | _ => none

def deserializeAll : List Json → Option (List Node)
  | [] => some []
  | item :: rest => do
    let node ← deserialize item
    let nodes ← deserializeAll rest
    return node :: nodes

end

end Node

namespace Parameter

def serialize (parameter : Parameter) : Json :=
  .object
    [("name", .text parameter.name),
      ("default", (parameter.default.map PropValue.serialize).getD .null)]

def deserialize : Json → Option Parameter
  | .object entries => do
    let name ← Json.nonEmptyText? (Entries.get? entries "name")
    match Entries.get? entries "default" with
    | none => return { name }
    | some .null => return { name }
    | some data =>
      return { name, default := some (← PropValue.deserialize data) }
  | _ => none

end Parameter

/-- Read the items of a list field; a field that was left out is no items. -/
def Json.listField {α : Type} (entries : List (String × Json)) (name : String)
    (read : Json → Option α) : Option (List α) :=
  match Entries.get? entries name with
  | none => some []
  | some (.array items) => items.mapM read
  | some _ => none

namespace Definition

def serialize (definition : Definition) : Json :=
  .object
    [("kind", .text "component"), ("name", .text definition.name),
      ("params", .array (definition.params.map Parameter.serialize)),
      ("body", .array (Node.serializeAll definition.body))]

def deserialize : Json → Option Definition
  | .object entries => do
    if !Json.isKind (Entries.get? entries "kind") "component" then none
    let name ← Json.nonEmptyText? (Entries.get? entries "name")
    let params ← Json.listField entries "params" Parameter.deserialize
    let body ← Node.deserializeField "body" entries
    return { name, params, body }
  | _ => none

end Definition

namespace Program

def serialize (program : Program) : Json :=
  .object
    [("kind", .text "app"),
      ("components", .array (program.definitions.map Definition.serialize)),
      ("body", .array (Node.serializeAll program.body))]

def deserialize : Json → Option Program
  | .object entries => do
    if !Json.isKind (Entries.get? entries "kind") "app" then none
    let definitions ← Json.listField entries "components" Definition.deserialize
    let body ← Node.deserializeField "body" entries
    return { definitions, body }
  | _ => none

end Program

end ViewCompiler
