/-!
# Binary64 numbers

A finite binary64 number is a whole number of smallest units, one unit being `2
^ -1074`.  In this form equal numbers have equal counts, no exponent is ever
negative, and every comparison is a comparison of integers.  Reading a decimal
rounds a quotient once, to the nearest number that has at most 53 significant
bits, a tie going to the even one.
-/

namespace ViewCompiler

/-- A binary64 number; a finite one counts units of `2 ^ -1074`. -/
inductive Double where
  | nan
  | infinite (negative : Bool)
  | finite (negative : Bool) (units : Nat)
deriving DecidableEq, Repr

namespace Double

/-- The number of smallest units in one. -/
def unitsInOne : Nat := Nat.pow 2 1074

/-- The least count of units that is too large for a finite number. -/
def unitLimit : Nat := Nat.pow 2 2098

/-- A quotient rounded to the nearest integer, a half to the even one. -/
def roundQuotient (num den : Nat) : Nat :=
  let whole := num / den
  let twice := 2 * (num % den)
  if twice < den then whole
  else if den < twice then whole + 1
  else if whole % 2 == 0 then whole
  else whole + 1

/-- The power of two that a count of units is rounded to, so that 53 significant
bits remain. -/
def grain (units : Nat) : Nat :=
  Nat.pow 2 (units.log2 - 52)

/-- The binary64 number nearest to `num / den` units. -/
def ofUnitQuotient (negative : Bool) (num den : Nat) : Double :=
  let step := grain (num / den)
  let units := roundQuotient num (den * step) * step
  if units < unitLimit then finite negative units else infinite negative

/-- The binary64 number nearest to `digits * 10 ^ exponent`. -/
def ofDecimal (negative : Bool) (digits : Nat) (exponent : Int) : Double :=
  let places := (Nat.toDigits 10 digits).length
  if digits == 0 || exponent + places < -400 then finite negative 0
  else if 400 < exponent + places then infinite negative
  else if 0 ≤ exponent then
    ofUnitQuotient negative (digits * Nat.pow 10 exponent.toNat * unitsInOne) 1
  else
    ofUnitQuotient negative (digits * unitsInOne) (Nat.pow 10 (-exponent).toNat)

def isWhole : Double → Bool
  | finite _ units => units % unitsInOne == 0
  | _ => false

end Double

end ViewCompiler
