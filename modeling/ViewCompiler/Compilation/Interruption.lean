import ViewCompiler.Compilation.Compiler

/-!
# Interrupted compilations

A compilation is interrupted by an element that cannot be checked because a
bound of its component's schemas is no number.  What happened before that
element stays, and there is neither a result nor a failure.
-/

namespace ViewCompiler

/-- A compilation that was interrupted: the compiler after it, what happened,
and the comparison that could not be made. -/
structure Interruption where
  compiler : Compiler
  events : List Event
  comparison : Comparison

namespace Check

/-- The comparison that keeps properties from being checked. -/
def comparison? (registry : Registry) (component : String) (props : Props) :
    Option Comparison :=
  registry.comparison? component (.record (input props))

/-- The comparison that keeps a node from being checked. -/
def nodeComparison? (registry : Registry) : Node → Option Comparison
  | .element tag props _ => comparison? registry tag props
  | _ => none

/-- The nodes before the first that cannot be checked, and the comparison in
that one. -/
def interrupted (registry : Registry) :
    List Node → List Node × Option Comparison
  | [] => ([], none)
  | node :: rest =>
    match nodeComparison? registry node with
    | some comparison => ([], some comparison)
    | none =>
      let (before, comparison) := interrupted registry rest
      (node :: before, comparison)

end Check

namespace Compiler

/-- The interruption of compiling a program, if there is one.  A strict compiler
that stops at a failure does not get to it. -/
def interruption? (compiler : Compiler) (program : Program) :
    Option Interruption :=
  let defined := compiler.defineAll program.definitions
  match Check.interrupted defined.registry program.nodes with
  | (_, none) => none
  | (before, some comparison) =>
    let checks := before.filterMap (Check.ofNode defined.registry)
    if compiler.settings.strict && (Check.firstError checks).isSome then none
    else
      some { compiler := defined, events := compiler.opening program checks,
             comparison }

def attempt (compiler : Compiler) (program : Program) :
    Except Interruption Compilation :=
  match compiler.interruption? program with
  | some interruption => .error interruption
  | none => .ok (compiler.compile program)

end Compiler

end ViewCompiler
