import ViewCompiler.Schema.Failure

/-!
# The result of a compilation

What a compilation produces, or why it stopped.
-/

namespace ViewCompiler

structure CompilationResult where
  code : String := ""
  fileName : String
  componentName : String
  outputFormat : String
  documentation : Option String := none
  parameters : List String := []
  /-- The bind targets that the component owns as state. -/
  internalState : List String := []
  /-- The bind targets that come from the caller. -/
  externalProps : List String := []
  customComponents : List String := []
  warnings : List String := []
  /-- The failures that did not stop the compilation. -/
  failures : List Failure := []

/-- There is something to be told besides the code. -/
def CompilationResult.hasWarnings (result : CompilationResult) : Bool :=
  !result.warnings.isEmpty || !result.failures.isEmpty

structure CompilationError where
  component : String
  failure : Failure

namespace CompilationError

def report (component : String) (failure : Failure) : String :=
  "Validation error in " ++ component ++ ": " ++ failure.message

def message (error : CompilationError) : String :=
  "UIX Compilation failed: " ++ report error.component error.failure

end CompilationError

end ViewCompiler
