import ViewCompiler.Json.Basic
import ViewCompiler.Json.Quoted

/-!
# Reading JSON texts

A text is cut into tokens and the tokens are read as one datum.  The format is
strict: only space, tab, line feed and carriage return are white space, there
are no trailing commas, and numbers have no superfluous zeros.  Three names are
accepted besides: `NaN`, `Infinity` and `-Infinity`.  A number with a point or
an exponent is a binary64 number, any other an integer of any size.  A name that
occurs twice in an object keeps its first place and takes its last value.

Faults are found from left to right.  Besides a text that is malformed, an
integer that has more digits than the limit is refused.  A text without these
faults is refused in the end if a string in it has a lone surrogate, since there
is no datum for it.
-/

namespace ViewCompiler.Json

inductive Token where
  | openArray
  | closeArray
  | openObject
  | closeObject
  | comma
  | colon
  /-- A string, and its text unless it has a lone surrogate. -/
  | string (text : Option String)
  | scalar (data : Json)
  /-- An integer that has too many digits. -/
  | longInteger (digits : Nat)
  /-- The rest of a text that does not start with a token. -/
  | broken

inductive ReadFault where
  | malformed
  | longInteger (digits : Nat)
  | loneSurrogate
deriving DecidableEq, Repr

/-- The characters of names and numbers. -/
def isScalarChar (c : Char) : Bool :=
  c.isAlphanum || c == '+' || c == '-' || c == '.'

def isSpace (c : Char) : Bool :=
  c == ' ' || c == '\t' || c == '\n' || c == '\r'

/-- The part of a number after its integer digits: an optional fraction and an
optional exponent. -/
def isNumberTail (chars : List Char) : Bool :=
  match chars with
  | '.' :: rest =>
    let (digits, after) := Decimal.spanDigits rest
    !digits.isEmpty && (Decimal.readExponent after).isSome
  | rest => (Decimal.readExponent rest).isSome

def readNumber (chars : List Char) : Option Number :=
  let unsigned := if chars.head? == some '-' then chars.tail else chars
  let (whole, tail) := Decimal.spanDigits unsigned
  if whole.isEmpty || (whole.head? == some '0' && whole.length != 1) ||
    !isNumberTail tail then none
  else if tail.isEmpty then
    let value : Int := Decimal.digitsValue whole
    some (.int (if chars.head? == some '-' then -value else value))
  else (Decimal.read chars).map fun decimal => .double decimal.toDouble

def readScalar (chars : List Char) : Option Json :=
  let name := String.ofList chars
  if name == "null" then some null
  else if name == "true" then some (bool true)
  else if name == "false" then some (bool false)
  else if name == "NaN" then some (number (.double .nan))
  else if name == "Infinity" then some (number (.double (.infinite false)))
  else if name == "-Infinity" then some (number (.double (.infinite true)))
  else (readNumber chars).map number

/-- The part after the integer digits starts with a fraction or an exponent. -/
def startsFraction : List Char → Bool
  | '.' :: rest => rest.head?.any Char.isDigit
  | c :: rest =>
    (c == 'e' || c == 'E') &&
      match rest with
      | sign :: after =>
        sign.isDigit ||
          ((sign == '+' || sign == '-') && after.head?.any Char.isDigit)
      | [] => false
  | [] => false

/-- The number of digits of the integer at the front of a text; zero if there is
none.  An integer ends before its first superfluous character, so what follows
it has no influence. -/
def integerLength (chars : List Char) : Nat :=
  let (whole, tail) :=
    Decimal.spanDigits (if chars.head? == some '-' then chars.tail else chars)
  if startsFraction tail then 0
  else if whole.head? == some '0' then 1
  else whole.length

/-- The token of a name or a number.  A long integer is found before the
characters that follow it. -/
def scalarToken (chars : List Char) : Token :=
  let digits := integerLength chars
  if Decimal.integerDigitLimit < digits then .longInteger digits
  else
    match readScalar chars with
    | some data => .scalar data
    | none => .broken

/-- The token that a single character is. -/
def punctuation (c : Char) : Option Token :=
  if c == '[' then some .openArray
  else if c == ']' then some .closeArray
  else if c == '\x7b' then some .openObject
  else if c == '\x7d' then some .closeObject
  else if c == ',' then some .comma
  else if c == ':' then some .colon
  else none

/-- Cut a text into tokens, up to the place where that fails. -/
def tokens (chars : List Char) : List Token :=
  match chars with
  | [] => []
  | c :: rest =>
    if isSpace c then tokens rest
    else
      match punctuation c with
      | some token => token :: tokens rest
      | none =>
        if c == '"' then
          match _hread : readCodes rest with
          | none => [.broken]
          | some (codes, after) =>
            .string ((joinCodes codes).map String.ofList) :: tokens after
        else if isScalarChar c then
          scalarToken (c :: rest.takeWhile isScalarChar) ::
            tokens (rest.dropWhile isScalarChar)
        else [.broken]
termination_by chars.length
decreasing_by
  · simp
  · simp
  · have := length_lt_of_readCodes _hread
    simp only [List.length_cons]
    omega
  · have := (List.dropWhile_suffix (l := rest) isScalarChar).length_le
    simp only [List.length_cons]
    omega

mutual

/-- Read one datum from the front of a token list. -/
def readValue : Nat → List Token → Except ReadFault (Json × List Token)
  | 0, _ => .error .malformed
  | _ + 1, .scalar data :: rest => .ok (data, rest)
  | _ + 1, .string s :: rest => .ok (text (s.getD ""), rest)
  | _ + 1, .longInteger digits :: _ => .error (.longInteger digits)
  | _ + 1, .openArray :: .closeArray :: rest => .ok (array [], rest)
  | fuel + 1, .openArray :: rest =>
    (readItems fuel rest).map fun found => (array found.1, found.2)
  | _ + 1, .openObject :: .closeObject :: rest => .ok (object [], rest)
  | fuel + 1, .openObject :: rest =>
    (readEntries fuel rest).map fun found =>
      (object (Entries.ofPairs found.1), found.2)
  | _ + 1, _ => .error .malformed

def readItems : Nat → List Token → Except ReadFault (List Json × List Token)
  | 0, _ => .error .malformed
  | fuel + 1, tokens =>
    match readValue fuel tokens with
    | .error fault => .error fault
    | .ok (item, .comma :: rest) =>
      (readItems fuel rest).map fun found => (item :: found.1, found.2)
    | .ok (item, .closeArray :: rest) => .ok ([item], rest)
    | .ok _ => .error .malformed

def readEntries : Nat → List Token →
    Except ReadFault (List (String × Json) × List Token)
  | 0, _ => .error .malformed
  | fuel + 1, .string key :: .colon :: tokens =>
    match readValue fuel tokens with
    | .error fault => .error fault
    | .ok (value, .comma :: rest) =>
      (readEntries fuel rest).map fun found =>
        ((key.getD "", value) :: found.1, found.2)
    | .ok (value, .closeObject :: rest) => .ok ([(key.getD "", value)], rest)
    | .ok _ => .error .malformed
  | _ + 1, _ => .error .malformed

end

/-- The token is a string with a lone surrogate. -/
def Token.isTextless : Token → Bool
  | string none => true
  | _ => false

/-- Read a JSON text.  Every step of reading takes a token or opens the datum
that starts with one, so twice the number of tokens bounds the steps. -/
def read (text : String) : Except ReadFault Json :=
  let tokens := tokens text.toList
  match readValue (2 * tokens.length + 2) tokens with
  | .error fault => .error fault
  | .ok (data, []) =>
    if tokens.any Token.isTextless then .error .loneSurrogate else .ok data
  | .ok _ => .error .malformed

end ViewCompiler.Json
