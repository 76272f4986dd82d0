/-!
# Sets of code points

A large set of code points is written as the lengths of its gaps and runs in
turn, a gap first.  The tables of character classes are lists of such lengths.
-/

namespace ViewCompiler.Text

/-- Membership in the set of code points whose gaps and runs have the given
lengths. -/
def inRuns (code : Nat) : List Nat → Bool
  | gap :: run :: rest =>
    if code < gap then false
    else if code < gap + run then true
    else inRuns (code - (gap + run)) rest
  | _ => false

/-- The number of code points before the given one in its run. -/
def offsetInRun? (code : Nat) : List Nat → Option Nat
  | gap :: run :: rest =>
    if code < gap then none
    else if code < gap + run then some (code - gap)
    else offsetInRun? (code - (gap + run)) rest
  | _ => none

/-- Code points from `first` to `last` in steps of `step`, each moved by
`shift`. -/
structure Stride where
  first : Nat
  last : Nat
  step : Nat
  shift : Int := 0

/-- The code point lies on the stride. -/
def Stride.holds (stride : Stride) (code : Nat) : Bool :=
  stride.first ≤ code && code ≤ stride.last &&
    (code - stride.first) % stride.step == 0

end ViewCompiler.Text
