import ViewCompiler.Entries
import ViewCompiler.Expression
import ViewCompiler.Number.Basic
import ViewCompiler.Value.Basic

/-!
# Programs

A program describes a user interface: components that it defines, and a body.  A
body is a list of nodes: elements with properties and children, conditional
blocks, and loops that bind an item name for their children.
-/

namespace ViewCompiler

inductive Literal where
  | bool (b : Bool)
  | number (n : Number)
  | text (s : String)
deriving DecidableEq, Repr

def Literal.toValue : Literal → Value
  | bool b => .bool b
  | number n => .number n
  | text s => .text s

/-- The value that a program writes for a property. -/
inductive PropValue where
  | literal (value : Literal)
  | expression (e : Expression)
deriving DecidableEq, Repr

namespace PropValue

def text (s : String) : PropValue :=
  literal (.text s)

def toValue : PropValue → Value
  | literal value => value.toValue
  | expression e => .expression e

end PropValue

/-- The properties of an element, in the order in which they are written. -/
abbrev Props := Entries PropValue

inductive Node where
  | element (tag : String) (props : List (String × PropValue))
      (children : List Node)
  /-- The children render when the condition holds. -/
  | conditional (condition : Expression) (children : List Node)
  /-- The children render once for every item of the source, under the name of
  the item. -/
  | loop (item : String) (source : Expression) (children : List Node)
deriving Repr

namespace Node

def children : Node → List Node
  | element _ _ children => children
  | conditional _ children => children
  | loop _ _ children => children

/-- What a node is called: an element by its tag, another node by its kind. -/
def label : Node → String
  | element tag _ _ => tag
  | conditional _ _ => "if"
  | loop _ _ _ => "for"

mutual

def eqDecidable : (a b : Node) → Decidable (a = b)
  | element tag props nodes, element tag' props' nodes' =>
    match decEq tag tag', decEq props props', allEqDecidable nodes nodes' with
    | isTrue htag, isTrue hprops, isTrue hnodes =>
      isTrue (by rw [htag, hprops, hnodes])
    | isFalse h, _, _ => isFalse fun e => h (by injection e)
    | _, isFalse h, _ => isFalse fun e => h (by injection e)
    | _, _, isFalse h => isFalse fun e => h (by injection e)
  | conditional condition nodes, conditional condition' nodes' =>
    match decEq condition condition', allEqDecidable nodes nodes' with
    | isTrue hcondition, isTrue hnodes => isTrue (by rw [hcondition, hnodes])
    | isFalse h, _ => isFalse fun e => h (by injection e)
    | _, isFalse h => isFalse fun e => h (by injection e)
  | loop item source nodes, loop item' source' nodes' =>
    match decEq item item', decEq source source',
        allEqDecidable nodes nodes' with
    | isTrue hitem, isTrue hsource, isTrue hnodes =>
      isTrue (by rw [hitem, hsource, hnodes])
    | isFalse h, _, _ => isFalse fun e => h (by injection e)
    | _, isFalse h, _ => isFalse fun e => h (by injection e)
    | _, _, isFalse h => isFalse fun e => h (by injection e)
  | element _ _ _, conditional _ _ => isFalse nofun
  | element _ _ _, loop _ _ _ => isFalse nofun
  | conditional _ _, element _ _ _ => isFalse nofun
  | conditional _ _, loop _ _ _ => isFalse nofun
  | loop _ _ _, element _ _ _ => isFalse nofun
  | loop _ _ _, conditional _ _ => isFalse nofun

def allEqDecidable : (a b : List Node) → Decidable (a = b)
  | [], [] => isTrue rfl
  | node :: rest, node' :: rest' =>
    match eqDecidable node node', allEqDecidable rest rest' with
    | isTrue hnode, isTrue hrest => isTrue (by rw [hnode, hrest])
    | isFalse h, _ => isFalse fun e => h (by injection e)
    | _, isFalse h => isFalse fun e => h (by injection e)
  | [], _ :: _ => isFalse nofun
  | _ :: _, [] => isFalse nofun

end

instance : DecidableEq Node := eqDecidable

mutual

/-- A node and the nodes inside it, each before those inside it. -/
def walk : Node → List Node
  | element tag props children => element tag props children :: walkAll children
  | conditional condition children =>
    conditional condition children :: walkAll children
  | loop item source children => loop item source children :: walkAll children

/-- The nodes of a list and those inside them, each before those inside it. -/
def walkAll : List Node → List Node
  | [] => []
  | node :: rest => node.walk ++ walkAll rest

end

end Node

structure Parameter where
  name : String
  default : Option PropValue := none
deriving DecidableEq, Repr

/-- The value that stands in for a parameter; null if it has no default. -/
def Parameter.defaultValue (parameter : Parameter) : Value :=
  (parameter.default.map PropValue.toValue).getD .null

structure Definition where
  name : String
  params : List Parameter := []
  body : List Node := []
deriving DecidableEq, Repr

def Definition.paramNames (definition : Definition) : List String :=
  definition.params.map Parameter.name

structure Program where
  definitions : List Definition := []
  body : List Node := []
deriving DecidableEq, Repr

namespace Program

/-- The first definition of a name. -/
def definition? (program : Program) (name : String) : Option Definition :=
  program.definitions.find? fun definition => definition.name == name

/-- All nodes: those of the definitions in order, then those of the body. -/
def nodes (program : Program) : List Node :=
  (program.definitions.flatMap fun definition =>
    Node.walkAll definition.body) ++ Node.walkAll program.body

end Program

end ViewCompiler
