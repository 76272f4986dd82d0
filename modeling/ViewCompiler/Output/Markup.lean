import ViewCompiler.Binding
import ViewCompiler.Json.Writer
import ViewCompiler.Output.Line
import ViewCompiler.Program.Serialized

/-!
# Markup

The lines that nodes render to.  An element becomes a tag with attributes, an
element with a bind target reads and writes the target, a conditional block
becomes a conditional expression, and a loop becomes a map over its source.
-/

namespace ViewCompiler

/-- Text between braces, which the generated code evaluates. -/
def braced (text : String) : String :=
  "\x7b" ++ text ++ "\x7d"

def Literal.code (value : Literal) : String :=
  value.serialize.write

namespace Markup

/-- The tags that elements have in the generated code. -/
def defaultTags : Entries String :=
  [("App", "div"), ("Title", "h1"), ("Row", "div"), ("Button", "button"),
    ("Input", "input"), ("Text", "span")]

/-- The tag of an element in the generated code; a tag without an entry
stays. -/
def tagName (tags : Entries String) (tag : String) : String :=
  (Entries.get? tags tag).getD tag

/-- The characters that raw text cannot hold. -/
def isTextSpecial (c : Char) : Bool :=
  c == '\x7b' || c == '\x7d' || c == '<' || c == '>'

/-- The text can stand between tags as it is. -/
def isRawText (text : String) : Bool :=
  !text.isEmpty && Text.isTrimmed text && !text.toList.any isTextSpecial

/-- The content that a text property becomes. -/
def textContent (value : PropValue) : String :=
  match value with
  | .expression e => braced e.text
  | .literal (.text s) => if isRawText s then s else braced (Json.quote s)
  | .literal value => braced value.code

/-- The text can stand between quotes as it is. -/
def isPlainString (text : String) : Bool :=
  !text.toList.contains '"' && !text.toList.contains '\\'

def attributeText (key : String) (value : PropValue) : String :=
  match value with
  | .expression e => key ++ "=" ++ braced e.text
  | .literal (.text s) =>
    if Name.isEventKey key && Name.isPath s then key ++ "=" ++ braced s
    else if isPlainString s then key ++ "=" ++ Json.quote s
    else key ++ "=" ++ braced (Json.quote s)
  | .literal value => key ++ "=" ++ braced value.code

/-- The property becomes an attribute.  Directives and texts do not, and where
there is a bind target it takes the place of the value and its handler. -/
def isAttribute (bound : Bool) (key : String) : Bool :=
  !Name.isDirective key && key != "text" &&
    !(bound && (key == "value" || key == "onChange"))

/-- The attributes by which an element reads and writes its bind target. -/
def boundAttributes (target : String) : List String :=
  ["value=" ++ braced target,
    "onChange=" ++ braced ("e => " ++ Name.setter target ++ "(e.target.value)")]

def attributes (props : Props) : List String :=
  let target := Binding.target? props
  (props.filter fun (key, _) => isAttribute target.isSome key).map
      (fun (key, value) => attributeText key value) ++
    (target.map boundAttributes).getD []

def opening (tag : String) (props : Props) : String :=
  "<" ++ tag ++ String.join ((attributes props).map (" " ++ ·))

/-- The lines of an element, given those inside it. -/
def elementLines (tag : String) (props : Props) (depth : Nat)
    (inner : List Line) : List Line :=
  if inner.isEmpty then [⟨depth, opening tag props ++ " />"⟩]
  else
    ⟨depth, opening tag props ++ ">"⟩ :: inner ++ [⟨depth, "</" ++ tag ++ ">"⟩]

def textLines (props : Props) (depth : Nat) : List Line :=
  ((Entries.get? props "text").map fun value =>
    ⟨depth, textContent value⟩).toList

def fragmentLines (depth : Nat) (inner : List Line) : List Line :=
  ⟨depth, "<>"⟩ :: inner ++ [⟨depth, "</>"⟩]

/-- The lines of a conditional block, given those inside it. -/
def conditionalLines (condition : Expression) (depth : Nat)
    (inner : List Line) : List Line :=
  ⟨depth, "\x7b" ++ condition.text ++ " ? ("⟩ :: inner ++
    [⟨depth, ") : null\x7d"⟩]

/-- The name of the position beside the item of a loop. -/
def indexName (item : String) : String :=
  if item == "index" then "position" else "index"

/-- The names that a loop binds for what is inside it. -/
def loopBinders (item : String) : List String :=
  [item, indexName item]

/-- The source of a loop as the receiver of a call. -/
def receiver (source : Expression) : String :=
  if source.isPath then source.text else "(" ++ source.text ++ ")"

/-- The key of an item: its own identity if it has one, else its position. -/
def itemKey (item : String) : String :=
  "typeof " ++ item ++ " === 'object' && " ++ item ++ " !== null && 'id' in " ++
    item ++ " ? " ++ item ++ ".id : " ++ indexName item

/-- The lines of a loop, given those inside it. -/
def loopLines (item : String) (source : Expression) (depth : Nat)
    (inner : List Line) : List Line :=
  ⟨depth, "\x7b" ++ receiver source ++ ".map((" ++
    ", ".intercalate (loopBinders item) ++ ") => ("⟩ ::
    ⟨depth + 1, "<React.Fragment key=" ++ braced (itemKey item) ++ ">"⟩ ::
    inner ++ [⟨depth + 1, "</React.Fragment>"⟩, ⟨depth, "))\x7d"⟩]

mutual

/-- The lines of a node at a depth. -/
def nodeLines (tags : Entries String) : Node → Nat → List Line
  | .element tag props children, depth =>
    elementLines (tagName tags tag) props depth
      (textLines props (depth + 1) ++ nodesLines tags children (depth + 1))
  | .conditional condition [child], depth =>
    conditionalLines condition depth (nodeLines tags child (depth + 1))
  | .conditional condition children, depth =>
    conditionalLines condition depth
      (fragmentLines (depth + 1) (nodesLines tags children (depth + 2)))
  | .loop item source children, depth =>
    loopLines item source depth (nodesLines tags children (depth + 2))

/-- The lines of nodes at a depth, one after the other. -/
def nodesLines (tags : Entries String) : List Node → Nat → List Line
  | [], _ => []
  | node :: rest, depth =>
    nodeLines tags node depth ++ nodesLines tags rest depth

end

/-- The return statement of a function that renders a body. -/
def renderLines (tags : Entries String) (body : List Node) (depth : Nat) :
    List Line :=
  ⟨depth, "return ("⟩ ::
    fragmentLines (depth + 1) (nodesLines tags body (depth + 2)) ++
    [⟨depth, ");"⟩]

end Markup

end ViewCompiler
