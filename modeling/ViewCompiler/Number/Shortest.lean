import ViewCompiler.Number.Double

/-!
# The shortest decimal of a binary64 number

A finite number is written with the fewest decimal digits that read back as the
same number, and of those with the digits nearest to it; a tie goes to the even
digit.  Positional notation is used while the leading digit stands between the
fourth decimal place and the sixteenth integer place; a whole number keeps one
zero after the point.
-/

namespace ViewCompiler.Double

/-- The exponent `p` with `10 ^ (p - 1) ≤ units / unitsInOne < 10 ^ p`, for a
positive count. -/
def decimalMagnitude (units : Nat) : Int :=
  let whole := units / unitsInOne
  if whole == 0 then
    match (List.range 330).find? fun places =>
        unitsInOne ≤ units * Nat.pow 10 places with
    | some places => 1 - (places : Int)
    | none => -330
  else (Nat.toDigits 10 whole).length

/-- The decimals `digits * 10 ^ exponent` next below and above the number on the
grid with the given exponent, with twice the distance to the lower one in parts
of the grid. -/
def gridFloor (units : Nat) (exponent : Int) : Nat × Nat × Nat :=
  let num :=
    if exponent < 0 then units * Nat.pow 10 (-exponent).toNat else units
  let den :=
    if exponent < 0 then unitsInOne else unitsInOne * Nat.pow 10 exponent.toNat
  (num / den, 2 * (num % den), den)

/-- The point of a grid that reads back as the number and is nearest to it, if
there is one; of two that are equally near, the even one. -/
def gridPoint (units : Nat) (exponent : Int) : Option Nat :=
  let (low, twice, den) := gridFloor units exponent
  let reads := fun digits =>
    ofDecimal false digits exponent == finite false units
  let upward := den < twice || (den == twice && low % 2 == 1)
  let nearer := if upward then low + 1 else low
  let farther := if upward then low else low + 1
  if reads nearer then some nearer
  else if reads farther then some farther
  else none

/-- The shortest decimal of a positive count of units: its digits and the power
of ten of the last one.  A number just below a power of ten may be nearest to
that power. -/
def shortest (units : Nat) : Nat × Int :=
  let magnitude := decimalMagnitude units
  let attempt := fun (count : Nat) =>
    let exponent := magnitude - (count + 1 : Nat)
    (gridPoint units exponent).map fun digits =>
      if digits == Nat.pow 10 (count + 1) then (1, magnitude)
      else (digits, exponent)
  match (List.range 17).findSome? attempt with
  | some found => found
  | none => (units, 0)

/-- Write `0.digits * 10 ^ point` positionally, with a zero where no digit
stands beside the point. -/
def positional (digits : List Char) (point : Int) : List Char :=
  if point ≤ 0 then
    '0' :: '.' :: (List.replicate (-point).toNat '0' ++ digits)
  else
    let whole := digits.take point.toNat
    let fraction := digits.drop point.toNat
    whole ++ List.replicate (point.toNat - digits.length) '0' ++
      '.' :: (if fraction.isEmpty then ['0'] else fraction)

/-- Write `0.digits * 10 ^ point` with an exponent of two digits or more. -/
def scientific (digits : List Char) (point : Int) : List Char :=
  let lead := digits.take 1
  let fraction := digits.drop 1
  let exponent := point - 1
  let places := Nat.toDigits 10 exponent.natAbs
  lead ++ (if fraction.isEmpty then [] else '.' :: fraction) ++
    'e' :: (if exponent < 0 then '-' else '+') ::
      (List.replicate (2 - places.length) '0' ++ places)

/-- The decimal text of a count of units. -/
def unitsText (units : Nat) : List Char :=
  if units == 0 then ['0', '.', '0']
  else
    let (digits, exponent) := shortest units
    let chars := Nat.toDigits 10 digits
    let point := exponent + chars.length
    if -4 < point && point ≤ 16 then positional chars point
    else scientific chars point

def text : Double → String
  | nan => "nan"
  | infinite negative => if negative then "-inf" else "inf"
  | finite negative units =>
    String.ofList (if negative then '-' :: unitsText units else unitsText units)

end ViewCompiler.Double
