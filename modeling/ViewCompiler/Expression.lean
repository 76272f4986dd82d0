import ViewCompiler.Name
import ViewCompiler.Text.Blank
import ViewCompiler.Text.Quoted

/-!
# Expressions

A value that is known only when the generated component renders is given by the
source text of an expression.  An expression is a plain path or a compound one.
-/

namespace ViewCompiler

inductive ExpressionKind where
  | identifier
  | compound
deriving DecidableEq, Repr

namespace ExpressionKind

def name : ExpressionKind → String
  | identifier => "identifier"
  | compound => "expression"

def ofName? (name : String) : Option ExpressionKind :=
  if name == "identifier" then some identifier
  else if name == "expression" then some compound
  else none

end ExpressionKind

structure Expression where
  kind : ExpressionKind := .compound
  text : String
deriving DecidableEq, Repr

namespace Expression

/-- The expression that a text denotes, its kind read off the trimmed text. -/
def of (text : String) : Expression :=
  let trimmed := Text.trim text
  ⟨if Name.isPath trimmed then .identifier else .compound, trimmed⟩

/-- The expression is marked as a plain path. -/
def isPath (expression : Expression) : Bool :=
  expression.kind == .identifier

/-- The identifier that a plain path starts from; compound texts have none. -/
def root (expression : Expression) : Option String :=
  if Name.isPath expression.text then some (Name.pathRoot expression.text)
  else none

def display (expression : Expression) : String :=
  "kind=" ++ Text.quoted expression.kind.name ++ " text=" ++
    Text.quoted expression.text

/-- An expression as a message shows it inside a list or a record. -/
def displayNested (expression : Expression) : String :=
  "Expression(kind=" ++ Text.quoted expression.kind.name ++ ", text=" ++
    Text.quoted expression.text ++ ")"

end Expression

end ViewCompiler
