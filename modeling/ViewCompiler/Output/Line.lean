/-!
# Lines of code

Generated code is a list of lines, each with the number of steps that it is
indented by.  The text of a line may itself contain line breaks, which come from
texts of the program.
-/

namespace ViewCompiler

structure Line where
  depth : Nat
  text : String
deriving DecidableEq, Repr

namespace Line

def indentStep : String := "  "

/-- The given number of steps of indentation. -/
def indent : Nat → String
  | 0 => ""
  | depth + 1 => indentStep ++ indent depth

def render (line : Line) : String :=
  indent line.depth ++ line.text

/-- The text of lines, each ended by a line feed. -/
def renderAll (lines : List Line) : String :=
  "\n".intercalate (lines.map render) ++ "\n"

end Line

end ViewCompiler
