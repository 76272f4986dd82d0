import ViewCompiler.Entries
import ViewCompiler.Json.Quoted
import ViewCompiler.Number.Decimal
import ViewCompiler.Pattern.Basic
import ViewCompiler.Text.Identifier

/-!
# Reading patterns

The text of a pattern is cut into tokens, and the tokens build the pattern on a
stack with one frame for every open group.  A pattern is broken if a group, a
class or a comment is not closed, a group is closed that was not opened or has
the name of an earlier one, a repetition has nothing to repeat or repeats a
repetition or an anchor, its bounds or the ends of a range are in the wrong
order, or an escape is unknown.  Besides, the bounds of repetitions have to stay
below a limit.

Some forms are known here but not described by a `Regex`: look-around,
references to groups and conditions on them, flags, atomic groups and possessive
repetitions, characters given by their names, and surrogates.  A pattern with
one of them is refused as unsupported, and nothing is said of what follows it.

Faults are found from left to right, and the first one counts.
-/

namespace ViewCompiler

inductive PatternFault where
  | broken
  | largeRepetition
  /-- A bound of a repetition has too many digits. -/
  | longInteger (digits : Nat)
  | unsupported
deriving DecidableEq, Repr

namespace Regex

abbrev Read (α : Type) := Except PatternFault α

inductive GroupKind where
  | plain
  | counted
  | named (name : String)
deriving DecidableEq, Repr

inductive Token where
  | item (regex : Regex)
  | anchor (regex : Regex)
  | openGroup (kind : GroupKind)
  | closeGroup
  | bar
  | repetition (least : Nat) (most : Option Nat) (possessive : Bool)
  | reference (number : Nat)
  | namedReference (name : String)
  /-- The rest of a text that does not start with a token. -/
  | fault (fault : PatternFault)

/-- The class that a letter stands for after a backslash. -/
def escapedClass (c : Char) : Option ClassItem :=
  if c == 'd' then some (.digit false)
  else if c == 'D' then some (.digit true)
  else if c == 'w' then some (.word false)
  else if c == 'W' then some (.word true)
  else if c == 's' then some (.blank false)
  else if c == 'S' then some (.blank true)
  else none

/-- The character of a code, with the number of characters that an escape has
taken for it. -/
def charOfCode (code taken : Nat) : Read (Char × Nat) :=
  if code.isValidChar then .ok (Char.ofNat code, taken)
  else if code ≤ 0x10FFFF then .error .unsupported
  else .error .broken

/-- Up to three octal digits at the front of a text. -/
def octalDigits (chars : List Char) : List Char :=
  (chars.take 3).takeWhile fun c => '0' ≤ c && c ≤ '7'

def octalChar (digits : List Char) : Read (Char × Nat) :=
  let code := digits.foldl (fun value c => 8 * value + (c.toNat - 48)) 0
  if digits.isEmpty || 255 < code then .error .broken
  else charOfCode code digits.length

/-- The character whose code is written with two, four or eight hexadecimal
digits behind a letter. -/
def hexChar (letter : Char) (chars : List Char) : Read (Char × Nat) :=
  match letter, chars with
  | 'x', a :: b :: _ => short (Json.hexValue '0' '0' a b) 3
  | 'u', a :: b :: c :: d :: _ => short (Json.hexValue a b c d) 5
  | 'U', a :: b :: c :: d :: e :: f :: g :: h :: _ =>
    match Json.hexValue a b c d, Json.hexValue e f g h with
    | some high, some low => charOfCode (high * 0x10000 + low) 9
    | _, _ => .error .broken
  | _, _ => .error .broken
where
  short (code : Option Nat) (taken : Nat) : Read (Char × Nat) :=
    match code with
    | some code => charOfCode code taken
    | none => .error .broken

/-- The character that an escape stands for, given what follows the backslash,
with the number of characters that the escape takes. -/
def escapedChar : List Char → Read (Char × Nat)
  | [] => .error .broken
  | c :: rest =>
    if c == 'n' then .ok ('\n', 1)
    else if c == 't' then .ok ('\t', 1)
    else if c == 'r' then .ok ('\r', 1)
    else if c == 'f' then .ok ('\x0c', 1)
    else if c == 'v' then .ok ('\x0b', 1)
    else if c == 'a' then .ok ('\x07', 1)
    else if c.isDigit then octalChar (octalDigits (c :: rest))
    else if c == 'x' || c == 'u' || c == 'U' then hexChar c rest
    else if c == 'N' && rest.head? == some '\x7b' then .error .unsupported
    else if c.isAlphanum then .error .broken
    else .ok (c, 1)

/-- One part of a class: a character or an escaped class, with the number of
characters taken. -/
def classAtom : List Char → Read ((Char ⊕ ClassItem) × Nat)
  | [] => .error .broken
  | '\\' :: rest =>
    match rest.head?.bind escapedClass with
    | some item => .ok (.inr item, 2)
    | none =>
      if rest.head? == some 'b' then .ok (.inl '\x08', 2)
      else (escapedChar rest).map fun (c, taken) => (.inl c, taken + 1)
  | c :: _ => .ok (.inl c, 1)

/-- The parts of a class up to its closing bracket, and what follows.  A closing
bracket in the first place is a character of the class. -/
def classItems : Nat → Bool → List Char → Read (List ClassItem × List Char)
  | 0, _, _ => .error .broken
  | fuel + 1, first, chars =>
    if chars.head? == some ']' && !first then .ok ([], chars.tail)
    else do
      let (low, taken) ← classAtom chars
      let after := chars.drop taken
      match after with
      | '-' :: next :: _ =>
        if next == ']' then single low fuel after
        else
          let (high, takenHigh) ← classAtom after.tail
          match low, high with
          | .inl low, .inl high =>
            if high < low then .error .broken
            else
              let (items, rest) ←
                classItems fuel false (after.tail.drop takenHigh)
              return (.range low high :: items, rest)
          | _, _ => .error .broken
      | _ => single low fuel after
where
  /-- A part that is not the start of a range. -/
  single (atom : Char ⊕ ClassItem) (fuel : Nat) (after : List Char) :
      Read (List ClassItem × List Char) := do
    let (items, rest) ← classItems fuel false after
    match atom with
    | .inl c => return (.range c c :: items, rest)
    | .inr item => return (item :: items, rest)

/-- A class whose opening bracket has been passed, and what follows it. -/
def readClass (chars : List Char) : Read (CharSet × List Char) := do
  let negated := chars.head? == some '^'
  let body := if negated then chars.tail else chars
  let (items, rest) ← classItems (body.length + 1) true body
  return (⟨negated, items⟩, rest)

/-- The bounds of a repetition as they are written, and what follows its braces;
nothing if the opening brace, which has been passed, is only a character. -/
def spanBounds (chars : List Char) :
    Option (List Char × List Char × List Char) :=
  let (least, afterLeast) := Decimal.spanDigits chars
  match afterLeast with
  | '\x7d' :: rest => if least.isEmpty then none else some (least, least, rest)
  | ',' :: afterComma =>
    let (most, afterMost) := Decimal.spanDigits afterComma
    match afterMost with
    | '\x7d' :: rest => some (least, most, rest)
    | _ => none
  | _ => none

/-- The number that a bound has to stay below. -/
def repetitionLimit : Nat :=
  4294967295

/-- Read a bound; none if it is left out. -/
def readBound (digits : List Char) : Read (Option Nat) :=
  if digits.isEmpty then .ok none
  else if Decimal.integerDigitLimit < digits.length then
    .error (.longInteger digits.length)
  else if repetitionLimit ≤ Decimal.digitsValue digits then
    .error .largeRepetition
  else .ok (some (Decimal.digitsValue digits))

/-- Read the bounds of a repetition.  A lower bound that is left out is zero. -/
def readBounds (least most : List Char) : Read (Nat × Option Nat) := do
  let least := (← readBound least).getD 0
  let most ← readBound most
  if most.any (· < least) then .error .broken else .ok (least, most)

/-- A repetition with what follows it.  A question mark right after it changes
only the order in which repetitions are tried. -/
def repetition (least : Nat) (most : Option Nat) (after : List Char) :
    Token × List Char :=
  match after with
  | '?' :: rest => (.repetition least most false, rest)
  | '+' :: rest => (.repetition least most true, rest)
  | rest => (.repetition least most false, rest)

/-- A repetition with written bounds.  A single backslash that ends the pattern
is seen before them. -/
def boundedRepetition (least most after : List Char) :
    Read (Token × List Char) := do
  if after == ['\\'] then .error .broken
  else
    let (least, most) ← readBounds least most
    return repetition least most after

/-- What follows a comment whose opening has been passed. -/
def skipComment : List Char → Read (List Char)
  | '\\' :: _ :: rest => skipComment rest
  | ')' :: rest => .ok rest
  | '\\' :: [] => .error .broken
  | [] => .error .broken
  | _ :: rest => skipComment rest

/-- The name of a group up to a closing character, and what follows that. -/
def groupName (closing : Char) (chars : List Char) :
    Read (String × List Char) :=
  let name := chars.takeWhile (· != closing)
  match chars.drop name.length with
  | _ :: after =>
    let name := String.ofList name
    if Text.isIdentifier name then .ok (name, after) else .error .broken
  | [] => .error .broken

/-- What follows the question mark at the start of a group opens an unsupported
form: look-around, an atomic group, a condition, or flags. -/
def opensUnsupported : List Char → Bool
  | '<' :: c :: _ => c == '=' || c == '!'
  | c :: _ => "=!>(-aiLmstux".contains c
  | [] => false

/-- The start of a group whose opening bracket has been passed; nothing stands
for a comment. -/
def openGroup (chars : List Char) : Read (Option Token × List Char) :=
  match chars with
  | '?' :: ':' :: rest => .ok (some (.openGroup .plain), rest)
  | '?' :: '#' :: rest => (skipComment rest).map fun after => (none, after)
  | '?' :: 'P' :: '<' :: rest =>
    (groupName '>' rest).map fun (name, after) =>
      (some (.openGroup (.named name)), after)
  | '?' :: 'P' :: '=' :: rest =>
    (groupName ')' rest).map fun (name, after) =>
      (some (.namedReference name), after)
  | '?' :: rest =>
    .error (if opensUnsupported rest then .unsupported else .broken)
  | rest => .ok (some (.openGroup .counted), rest)

/-- A digit after a backslash starts the code of a character if it is a zero or
three octal digits follow each other; else one or two digits are the number of a
group. -/
def escapedDigits (c : Char) (rest : List Char) : Read (Token × List Char) :=
  let octal := octalDigits (c :: rest)
  if c == '0' || octal.length = 3 then
    (octalChar octal).map fun (found, taken) =>
      (.item (.one (.single found)), (c :: rest).drop taken)
  else
    let digits := c :: (rest.take 1).takeWhile Char.isDigit
    .ok (.reference (Decimal.digitsValue digits),
      (c :: rest).drop digits.length)

/-- The token of an escape whose backslash has been passed. -/
def escape (chars : List Char) : Read (Token × List Char) :=
  match chars with
  | [] => .error .broken
  | c :: rest =>
    match escapedClass c with
    | some item => .ok (.item (.one ⟨false, [item]⟩), rest)
    | none =>
      if c == 'b' then .ok (.anchor (.boundary false), rest)
      else if c == 'B' then .ok (.anchor (.boundary true), rest)
      else if c == 'A' then .ok (.anchor .start, rest)
      else if c == 'Z' then .ok (.anchor (.finish false), rest)
      else if c.isDigit then escapedDigits c rest
      else
        (escapedChar chars).map fun (found, taken) =>
          (.item (.one (.single found)), chars.drop taken)

/-- The first token of a text that starts with the given character, unless a
comment is there, and what follows. -/
def token (c : Char) (rest : List Char) : Read (Option Token × List Char) :=
  if c == '(' then openGroup rest
  else if c == '\\' then (escape rest).map fun found => (some found.1, found.2)
  else if c == '[' then
    (readClass rest).map fun (set, after) => (some (.item (.one set)), after)
  else if c == ')' then .ok (some .closeGroup, rest)
  else if c == '|' then .ok (some .bar, rest)
  else if c == '.' then .ok (some (.item (.one .anyInLine)), rest)
  else if c == '^' then .ok (some (.anchor .start), rest)
  else if c == '$' then .ok (some (.anchor (.finish true)), rest)
  else if c == '*' then repeated (repetition 0 none rest)
  else if c == '+' then repeated (repetition 1 none rest)
  else if c == '?' then repeated (repetition 0 (some 1) rest)
  else if c == '\x7b' then
    match spanBounds rest with
    | some (least, most, after) =>
      (boundedRepetition least most after).bind repeated
    | none => .ok (some (.item (.one (.single c))), rest)
  else .ok (some (.item (.one (.single c))), rest)
where
  repeated (found : Token × List Char) : Read (Option Token × List Char) :=
    .ok (some found.1, found.2)

/-- Cut a pattern into tokens, up to the place where that fails. -/
def tokens (chars : List Char) : List Token :=
  match chars with
  | [] => []
  | c :: rest =>
    match token c rest with
    | .error fault => [.fault fault]
    | .ok (found, after) =>
      found.toList ++ tokens (rest.drop (rest.length - after.length))
termination_by chars.length
decreasing_by
  simp only [List.length_drop, List.length_cons]
  omega

/-- A piece of a sequence, with what may be done to it: only a plain piece can
be repeated. -/
structure Piece where
  regex : Regex
  repeatable : Bool

/-- An open group: its number if it is counted, its finished alternatives, and
the pieces of the current one, last piece first. -/
structure Frame where
  number : Option Nat := none
  alternatives : List Regex := []
  pieces : List Piece := []

namespace Frame

/-- The sequence of the current alternative. -/
def sequence (frame : Frame) : Regex :=
  frame.pieces.foldl (fun tail piece => .seq piece.regex tail) .empty

/-- What the group describes. -/
def close (frame : Frame) : Regex :=
  frame.alternatives.foldl (fun right left => .alt left right) frame.sequence

def push (frame : Frame) (regex : Regex) (repeatable : Bool) : Frame :=
  { frame with pieces := ⟨regex, repeatable⟩ :: frame.pieces }

end Frame

/-- How far a pattern is read: the open groups, the innermost first, the number
of counted groups, and the numbers of those with names. -/
structure Reading where
  stack : List Frame := [{}]
  count : Nat := 0
  names : Entries Nat := []

namespace Reading

def openGroup (reading : Reading) (kind : GroupKind) : Read Reading :=
  let number := reading.count + 1
  let counted : Reading :=
    { reading with
      stack := { number := some number } :: reading.stack, count := number }
  match kind with
  | .plain => .ok { reading with stack := {} :: reading.stack }
  | .counted => .ok counted
  | .named name =>
    if Entries.has reading.names name then .error .broken
    else .ok { counted with names := Entries.set reading.names name number }

/-- A reference to a group that is closed is unsupported, and any other is
broken. -/
def refer (reading : Reading) (number : Nat) : PatternFault :=
  if 0 < number && number ≤ reading.count &&
      reading.stack.all fun frame => frame.number != some number then
    .unsupported
  else .broken

def shift (reading : Reading) (token : Token) : Read Reading :=
  match token, reading.stack with
  | .fault fault, _ => .error fault
  | .openGroup kind, _ => reading.openGroup kind
  | .reference number, _ => .error (reading.refer number)
  | .namedReference name, _ =>
    .error (reading.refer ((Entries.get? reading.names name).getD 0))
  | _, [] => .error .broken
  | .item regex, frame :: outer =>
    .ok { reading with stack := frame.push regex true :: outer }
  | .anchor regex, frame :: outer =>
    .ok { reading with stack := frame.push regex false :: outer }
  | .closeGroup, [_] => .error .broken
  | .closeGroup, frame :: parent :: outer =>
    .ok { reading with stack := parent.push frame.close true :: outer }
  | .bar, frame :: outer =>
    let alternatives := frame.sequence :: frame.alternatives
    .ok { reading with
      stack := { frame with alternatives, pieces := [] } :: outer }
  | .repetition least most possessive, frame :: outer =>
    match frame.pieces with
    | ⟨regex, true⟩ :: before =>
      let pieces := ⟨.loop least most regex, false⟩ :: before
      if possessive then .error .unsupported
      else .ok { reading with stack := { frame with pieces } :: outer }
    | _ => .error .broken

end Reading

def read (source : String) : Read Regex := do
  let reading ← (tokens source.toList).foldlM Reading.shift {}
  match reading.stack with
  | [frame] => return frame.close
  | _ => .error .broken

end Regex

def Pattern.read (source : String) : Except PatternFault Pattern :=
  (Regex.read source).map fun regex => ⟨source, regex⟩

end ViewCompiler
