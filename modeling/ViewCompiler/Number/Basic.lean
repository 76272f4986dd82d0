import ViewCompiler.Number.Decimal
import ViewCompiler.Number.Shortest

/-!
# Numbers

A number is an integer of any size or a binary64 number.  The two stay apart, so
`1` and `1.0` are written differently, but they are compared by value and
without rounding.
-/

namespace ViewCompiler

inductive Number where
  | int (n : Int)
  | double (d : Double)
deriving DecidableEq, Repr

/-- A place on the number line, in smallest units of binary64. -/
inductive Place where
  | below
  | units (count : Int)
  | above
deriving DecidableEq, Repr

/-- The strict order of places. -/
def Place.lt : Place → Place → Bool
  | below, below => false
  | below, _ => true
  | units a, units b => a < b
  | units _, above => true
  | _, _ => false

namespace Number

/-- The place of a number on the number line; not-a-number has none. -/
def place : Number → Option Place
  | int n => some (.units (n * Double.unitsInOne))
  | double .nan => none
  | double (.infinite true) => some .below
  | double (.infinite false) => some .above
  | double (.finite true units) => some (.units (-(units : Int)))
  | double (.finite false units) => some (.units units)

/-- Less than, by value; false as soon as one side is not a number. -/
def lt (a b : Number) : Bool :=
  match a.place, b.place with
  | some p, some q => p.lt q
  | _, _ => false

/-- Equal by value; false as soon as one side is not a number. -/
def same (a b : Number) : Bool :=
  match a.place, b.place with
  | some p, some q => p == q
  | _, _ => false

def isNan : Number → Bool
  | double .nan => true
  | _ => false

def isWhole : Number → Bool
  | int _ => true
  | double d => d.isWhole

def isZero (n : Number) : Bool :=
  n.same (int 0)

/-- The text of a number; a binary64 number always shows a point, an exponent or
a name. -/
def text : Number → String
  | int n => toString n
  | double d => d.text

end Number

end ViewCompiler
