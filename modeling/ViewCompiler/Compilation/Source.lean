import ViewCompiler.Compilation.Interruption
import ViewCompiler.Program.Loading

/-!
# Sources

A compiler takes a program, or data that it has to load first.  Compiling a
source ends with a result, or stops because the data cannot be loaded, because
an element cannot be checked, because a strict compiler refuses one, or because
a hook ends it.
-/

namespace ViewCompiler

inductive Source where
  | program (given : Program)
  /-- Data that has still to be loaded. -/
  | data (given : Json)

namespace Source

/-- The program of a source, with what loading it logs. -/
def load : Source → Load (Program × Log)
  | program given => .ok (given, [])
  | data given => Program.loadLogged given

/-- The program that was given as such. -/
def program? : Source → Option Program
  | program given => some given
  | data _ => none

end Source

inductive Stop where
  | unloadable (error : LoadError)
  | interrupted (comparison : Comparison)
  | failed (error : CompilationError)
  /-- A hook raised what is not caught. -/
  | ended (raised : Raised)

namespace Compiler

/-- Compile a source: what loading it logs, and the compilation of its
program. -/
def attemptSource (compiler : Compiler) (source : Source) :
    Load (Log × Except Interruption Compilation) := do
  let (program, log) ← source.load
  return (log, compiler.attempt program)

def answer (compiler : Compiler) (source : Source) :
    Except Stop CompilationResult :=
  match compiler.attemptSource source with
  | .error error => .error (.unloadable error)
  | .ok (_, .error interruption) =>
    .error (.interrupted interruption.comparison)
  | .ok (_, .ok compilation) => compilation.outcome.mapError .failed

end Compiler

end ViewCompiler
