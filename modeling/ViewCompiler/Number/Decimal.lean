import ViewCompiler.Number.Double
import ViewCompiler.Text.Blank
import ViewCompiler.Text.Word

/-!
# Decimal texts

Reading a decimal text such as `-1.5e3`: an optional sign, digits around an
optional point, and an optional exponent.  The value is kept exactly as `digits
* 10 ^ exponent` until it is rounded to a binary64 number.

A binary64 number by itself may be written more freely: with white space around
it, with digits of any script, with underscores between digits, and by name.
-/

namespace ViewCompiler

/-- The value `digits * 10 ^ exponent` with a sign. -/
structure Decimal where
  negative : Bool
  digits : Nat
  exponent : Int
deriving DecidableEq, Repr

namespace Decimal

def digitsValue (chars : List Char) : Nat :=
  chars.foldl (fun value c => 10 * value + (c.toNat - 48)) 0

/-- The most digits that an integer may be written with. -/
def integerDigitLimit : Nat :=
  4300

/-- What is said of an integer that is written with more digits than the
limit. -/
def longIntegerMessage (digits : Nat) : String :=
  "Exceeds the limit (4300 digits) for integer string conversion: value has " ++
    toString digits ++
    " digits; use sys.set_int_max_str_digits() to increase the limit"

/-- What is said of an integer that is to be written with more. -/
def unprintableIntegerMessage : String :=
  "Exceeds the limit (4300 digits) for integer string conversion; " ++
    "use sys.set_int_max_str_digits() to increase the limit"

def spanDigits (chars : List Char) : List Char × List Char :=
  (chars.takeWhile Char.isDigit, chars.dropWhile Char.isDigit)

/-- Split off a sign at the front; a plus sign is dropped. -/
def spanSign : List Char → Bool × List Char
  | '-' :: rest => (true, rest)
  | '+' :: rest => (false, rest)
  | chars => (false, chars)

/-- The exponent part of a decimal: nothing, or a mark, an optional sign and
digits. -/
def readExponent : List Char → Option Int
  | [] => some 0
  | mark :: rest =>
    if mark == 'e' || mark == 'E' then
      let (negative, unsigned) := spanSign rest
      let (digits, after) := spanDigits unsigned
      if digits.isEmpty || !after.isEmpty then none
      else if negative then some (-(digitsValue digits : Int))
      else some (digitsValue digits)
    else none

/-- Read a decimal with a sign; digits may be missing on one side of the
point. -/
def read (chars : List Char) : Option Decimal :=
  let (negative, unsigned) := spanSign chars
  let (whole, afterWhole) := spanDigits unsigned
  let (fraction, afterFraction) :=
    match afterWhole with
    | '.' :: rest => spanDigits rest
    | rest => ([], rest)
  if whole.isEmpty && fraction.isEmpty then none
  else
    (readExponent afterFraction).map fun exponent =>
      ⟨negative, digitsValue (whole ++ fraction), exponent - fraction.length⟩

/-- The binary64 number nearest to a decimal. -/
def toDouble (decimal : Decimal) : Double :=
  Double.ofDecimal decimal.negative decimal.digits decimal.exponent

end Decimal

namespace Double

/-- The characters with ASCII digits and without the underscores, each of which
has to stand between two digits.  Whether the characters follow a digit is
given. -/
def plainChars : Bool → List Char → Option (List Char)
  | _, [] => some []
  | afterDigit, c :: rest =>
    if c = '_' then
      if afterDigit && rest.head?.any Text.isDigit then plainChars false rest
      else none
    else (plainChars (Text.isDigit c) rest).map (Text.foldDigit c :: ·)

/-- Read the characters of a decimal, or of a signed infinity or not-a-number by
name. -/
def readChars (chars : List Char) : Option Double :=
  let (negative, unsigned) := Decimal.spanSign chars
  let name := String.ofList (unsigned.map Char.toLower)
  if name == "nan" then some .nan
  else if name == "inf" || name == "infinity" then some (.infinite negative)
  else (Decimal.read chars).map Decimal.toDouble

def read (text : String) : Option Double :=
  (plainChars false (Text.trimChars text.toList)).bind readChars

end Double

end ViewCompiler
