/-!
# Lines of a text

A line ends at a line feed, a carriage return, the pair of both, or one of the
other separators of lines, records and paragraphs.  A separator at the very end
of a text does not open another line.
-/

namespace ViewCompiler.Text

/-- The characters that end a line. -/
def isLineBreak (c : Char) : Bool :=
  let code := c.toNat
  (0x0A ≤ code && code ≤ 0x0D) || (0x1C ≤ code && code ≤ 0x1E) ||
    code == 0x85 || code == 0x2028 || code == 0x2029

/-- The lines of a list of characters, without their separators. -/
def lineChars : List Char → List (List Char)
  | [] => []
  | '\r' :: '\n' :: rest => [] :: lineChars rest
  | c :: rest =>
    if isLineBreak c then
      [] :: lineChars rest
    else
      match lineChars rest with
      | [] => [[c]]
      | line :: more => (c :: line) :: more

def lines (text : String) : List String :=
  (lineChars text.toList).map String.ofList

end ViewCompiler.Text
