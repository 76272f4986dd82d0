import ViewCompiler.Program.Basic
import ViewCompiler.Value.Display

/-!
# Tree view

A program as a tree of lines.  Under every definition, and under the program
itself, stand its nodes with the branches that lead to them.
-/

namespace ViewCompiler.Tree

/-- How a text property is shown: a literal text in quotes, any other value in
braces. -/
def textLabel : PropValue → String
  | .literal (.text s) => " \"" ++ s ++ "\""
  | .literal value => " \x7b" ++ value.toValue.display ++ "\x7d"
  | .expression e => " \x7b" ++ e.text ++ "\x7d"

/-- How the names of the other properties are shown. -/
def attributeLabel (names : List String) : String :=
  if names.isEmpty then "" else " [" ++ ", ".intercalate names ++ "]"

/-- What the line of a node says. -/
def label : Node → String
  | .element tag props _ =>
    tag ++ ((Entries.get? props "text").map textLabel).getD "" ++
      attributeLabel ((Entries.keys props).filter (· != "text"))
  | .conditional condition _ => "if " ++ condition.text
  | .loop item source _ => "for " ++ item ++ " in " ++ source.text

def branch (isLast : Bool) : String :=
  if isLast then "└── " else "├── "

/-- What stands under the branch to a node, left of the nodes inside it. -/
def trunk (isLast : Bool) : String :=
  if isLast then "    " else "│   "

mutual

/-- The lines of a node, to the right of the trunks of the nodes around it. -/
def nodeLines (trunks : String) (isLast : Bool) : Node → List String
  | .element tag props children =>
    (trunks ++ branch isLast ++ label (.element tag props children)) ::
      siblingLines (trunks ++ trunk isLast) children
  | .conditional condition children =>
    (trunks ++ branch isLast ++ label (.conditional condition children)) ::
      siblingLines (trunks ++ trunk isLast) children
  | .loop item source children =>
    (trunks ++ branch isLast ++ label (.loop item source children)) ::
      siblingLines (trunks ++ trunk isLast) children

/-- The lines of nodes beside each other. -/
def siblingLines (trunks : String) : List Node → List String
  | [] => []
  | node :: rest =>
    nodeLines trunks rest.isEmpty node ++ siblingLines trunks rest

end

def definitionLines (definition : Definition) : List String :=
  (definition.name ++ "(" ++ ", ".intercalate definition.paramNames ++ ")") ::
    siblingLines "" definition.body

def lines (program : Program) : List String :=
  program.definitions.flatMap definitionLines ++
    "App" :: siblingLines "" program.body

def render (program : Program) : String :=
  "\n".intercalate (lines program)

end ViewCompiler.Tree
