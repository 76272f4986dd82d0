/-!
# White space

White space is the set of characters that `trim` removes at both ends of a text
and that may stand between the parts of an expression.  It covers the separators
of every script, not only those of ASCII; the zero-width characters U+200B and
U+FEFF do not belong to it.
-/

namespace ViewCompiler.Text

/-- The white-space characters. -/
def isBlank (c : Char) : Bool :=
  let code := c.toNat
  (0x09 ≤ code && code ≤ 0x0D) || (0x1C ≤ code && code ≤ 0x20) ||
    code == 0x85 || code == 0xA0 || code == 0x1680 ||
    (0x2000 ≤ code && code ≤ 0x200A) || code == 0x2028 || code == 0x2029 ||
    code == 0x202F || code == 0x205F || code == 0x3000

/-- Drop the white space at the front of a list of characters. -/
def dropBlanks (chars : List Char) : List Char :=
  chars.dropWhile isBlank

/-- A list of characters without the white space at its two ends. -/
def trimChars (chars : List Char) : List Char :=
  (dropBlanks (dropBlanks chars).reverse).reverse

def trim (text : String) : String :=
  String.ofList (trimChars text.toList)

/-- The text has white space at neither end. -/
def isTrimmed (text : String) : Bool :=
  trim text == text

end ViewCompiler.Text
