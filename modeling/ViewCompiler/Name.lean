import ViewCompiler.Text.Upper

/-!
# Names in programs

The names that the compiler gives a meaning to: plain paths such as `user.name`,
bind targets such as `count`, the setter that belongs to a target, handler keys
such as `onClick`, and the directive properties that never become attributes.

A path or a target may be followed by one line feed; this line feed is then part
of the name.
-/

namespace ViewCompiler.Name

/-- Letters, the underscore and the dollar sign may start a path or a target. -/
def isStart (c : Char) : Bool :=
  c.isAlpha || c == '_' || c == '$'

/-- Characters of a path after the first. -/
def isPathChar (c : Char) : Bool :=
  c.isAlphanum || c == '_' || c == '$' || c == '.'

/-- Characters of a bind target after the first. -/
def isTargetChar (c : Char) : Bool :=
  c.isAlphanum || c == '_'

def dropFinalLineFeed (chars : List Char) : List Char :=
  if chars.getLast? == some '\n' then chars.dropLast else chars

/-- The characters start as a name starts and go on with the given
characters. -/
def isNameOf (follows : Char → Bool) : List Char → Bool
  | [] => false
  | first :: rest => isStart first && (dropFinalLineFeed rest).all follows

/-- The text is a plain path, dots included. -/
def isPath (text : String) : Bool :=
  isNameOf isPathChar text.toList

/-- The text may be the target of a bind. -/
def isTarget (text : String) : Bool :=
  isNameOf isTargetChar text.toList

/-- The part of a path before its first dot. -/
def pathRoot (text : String) : String :=
  String.ofList (text.toList.takeWhile (· != '.'))

/-- The name with its first character in upper case. -/
def capitalize (name : String) : String :=
  match name.toList with
  | [] => ""
  | first :: rest => String.ofList (Text.raiseChar first ++ rest)

/-- The setter that belongs to a bind target. -/
def setter (name : String) : String :=
  "set" ++ capitalize name

/-- Keys of handlers: `on` followed by an upper-case letter. -/
def isEventKey (key : String) : Bool :=
  match key.toList with
  | 'o' :: 'n' :: third :: _ => Text.isUpper third
  | _ => false

/-- The directive properties, which steer the compiler and never become
attributes. -/
def directives : List String :=
  ["bind", "initial", "bindDefault"]

def isDirective (key : String) : Bool :=
  directives.contains key

end ViewCompiler.Name
