import ViewCompiler.Compilation.Result
import ViewCompiler.Output.Tree
import ViewCompiler.Text.Lines

/-!
# Compilation reports

A summary of a result in plain text, with the tree of the program if it is
given.
-/

namespace ViewCompiler.Report

/-- Names in a line, or that there are none. -/
def listOrNone (names : List String) : String :=
  if names.isEmpty then "(none)" else ", ".intercalate names

/-- The lines about the structure of a program.  Line breaks inside a label
start a new line. -/
def structureLines (program : Option Program) : List String :=
  match program with
  | none => []
  | some program =>
    "Structure:" :: (Text.lines (Tree.render program)).map ("  " ++ ·)

def lines (result : CompilationResult) (program : Option Program := none) :
    List String :=
  ["--- COMPILATION REPORT ---",
    "Component: " ++ result.componentName ++ " (" ++ result.fileName ++ ")",
    "Format: " ++ result.outputFormat,
    "Parameters: " ++ listOrNone result.parameters,
    "Internal state: " ++ listOrNone result.internalState,
    "External bind props: " ++ listOrNone result.externalProps,
    "Custom components: " ++ listOrNone result.customComponents,
    "Warnings: " ++ toString result.warnings.length] ++
    result.warnings.map ("  - " ++ ·) ++
    ["Validation failures: " ++ toString result.failures.length] ++
    result.failures.map (fun failure => "  - " ++ failure.describe) ++
    structureLines program ++ ["--- END REPORT ---"]

def render (result : CompilationResult) (program : Option Program := none) :
    String :=
  "\n".intercalate (lines result program)

end ViewCompiler.Report
