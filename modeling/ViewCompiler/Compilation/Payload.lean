import ViewCompiler.Compilation.Result
import ViewCompiler.Program.Basic
import ViewCompiler.Settings.Basic

/-!
# Payloads

What a compilation hands to those who watch it: named data, each of them a part
of the compilation as it is, or a plain value.
-/

namespace ViewCompiler

inductive Datum where
  | value (value : Value)
  | program (program : Program)
  | settings (settings : Settings)
  | definition (definition : Definition)
  | schemas (schemas : Entries Schema)
  | failure (failure : Failure)
  | result (result : CompilationResult)

namespace Datum

def text (s : String) : Datum :=
  value (.text s)

/-- A datum in short, as a list of calls shows it. -/
def summary : Datum → Value
  | value v => v
  | program p =>
    .record
      [("components",
        .list (p.definitions.map fun definition => .text definition.name)),
        ("body", .int p.body.length)]
  | settings s => .text s.componentName
  | definition d => .list (d.paramNames.map .text)
  | schemas entries => .record (Entries.mapValues Schema.card entries)
  | failure f => .text f.describe
  | result r => .text r.fileName

end Datum

/-- The data that a point hands to its hooks. -/
abbrev Payload := Entries Datum

end ViewCompiler
