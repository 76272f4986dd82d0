import ViewCompiler.Pattern.Search
import ViewCompiler.Schema.Basic
import ViewCompiler.Schema.Failure

/-!
# Validation

Checking a value against a schema.  An absent value is a failure if the property
is required, and otherwise its default stands in for it unchecked.  A
render-time value is accepted as it is.  Any other value has to have the shape
of the schema and then keep its limits, which are checked in a fixed order; the
first breach is the failure.

An accepted value is the given one, except that defaults stand in for absent
entries and that undeclared entries of objects are dropped.  The paths of
dropped entries are listed.
-/

namespace ViewCompiler

/-- A value that conforms, with the paths of the entries that were dropped from
it. -/
structure Accepted where
  value : Value
  dropped : List String := []

abbrev Verdict := Except Failure Accepted

def Verdict.unchanged (value : Value) : Verdict :=
  .ok { value }

/-- The value breaks a limit. -/
def Verdict.violation (path message : String) (value : Value) : Verdict :=
  .error
    { kind := .constraintViolation, path, value,
      message := path ++ " must " ++ message }

/-- The indefinite article of a shape's name. -/
def Kind.article (kind : Kind) : String :=
  match kind with
  | .array | .object | .enum | .any | .union => "an"
  | _ => "a"

/-- The value does not have the shape of the schema. -/
def Verdict.mismatch (kind : Kind) (value : Value) (path : String) : Verdict :=
  .error
    { kind := .typeMismatch
      path
      message :=
        path ++ " must be " ++ kind.article ++ " " ++ kind.name ++ ", got " ++
          value.kindName
      value
      expected := some kind.name
      actual := some value.kindName }

/-- What happens before the shape of a value is looked at: an absent value fails
or is replaced by the default, a render-time value is accepted, and for any
other value the given verdict counts. -/
def Presence.judge (presence : Presence) (value : Value) (path : String)
    (verdict : Verdict) : Verdict :=
  match value with
  | .null | .missing =>
    if presence.required then
      .error
        { kind := .missingRequired, path, message := path ++ " is required" }
    else .unchanged presence.default
  | .runtime source => .unchanged (.runtime source)
  | _ => verdict

namespace TextLimits

def check (limits : TextLimits) (text path : String) : Verdict :=
  let value := Value.text text
  let length := Number.int text.length
  if let some bound := limits.minLength.filter (Bound.undercut length) then
    .violation path ("be at least " ++ bound.text ++ " characters long") value
  else if let some bound := limits.maxLength.filter (Bound.exceeded length) then
    .violation path
      ("be no more than " ++ bound.text ++ " characters long") value
  else if let some pattern := limits.pattern.filter (!·.found text) then
    .violation path ("match pattern: " ++ pattern.source) value
  else .unchanged value

end TextLimits

namespace NumberLimits

def check (limits : NumberLimits) (number : Number) (path : String) : Verdict :=
  let value := Value.number number
  if let some bound := limits.minimum.filter (Bound.undercut number) then
    .violation path ("be at least " ++ bound.text) value
  else if let some bound := limits.maximum.filter (Bound.exceeded number) then
    .violation path ("be no more than " ++ bound.text) value
  else if limits.integer && !number.isWhole then
    .violation path "be an integer" value
  else .unchanged value

end NumberLimits

namespace SizeLimits

/-- The breach of the limits by an array with the given number of items. -/
def breach (limits : SizeLimits) (count : Nat) : Option String :=
  if let some bound := limits.minItems.filter (Bound.undercut (.int count)) then
    some ("have at least " ++ bound.text ++ " items")
  else if let some bound :=
      limits.maxItems.filter (Bound.exceeded (.int count)) then
    some ("have no more than " ++ bound.text ++ " items")
  else none

end SizeLimits

namespace Schema

/-- Check items one after the other: the accepted items and all dropped paths,
or the first failure.  The first item has the given index. -/
def validateItems (validate : Value → String → Verdict) (path : String) :
    Nat → List Value → Except Failure (List Value × List String)
  | _, [] => .ok ([], [])
  | index, item :: rest => do
    let accepted ← validate item (path ++ "[" ++ toString index ++ "]")
    let (items, dropped) ← validateItems validate path (index + 1) rest
    return (accepted.value :: items, accepted.dropped ++ dropped)

/-- Check the items of an array with the given limits and, if there is one, the
check for items. -/
def validateArray (size : SizeLimits)
    (validate : Option (Value → String → Verdict))
    (rebuild : List Value → Value) (items : List Value) (path : String) :
    Verdict :=
  match size.breach items.length with
  | some message => .violation path message (rebuild items)
  | none =>
    match validate with
    | none => .unchanged (rebuild items)
    | some validate => do
      let (items, dropped) ← validateItems validate path 0 items
      return { value := rebuild items, dropped }

/-- The value is none of the allowed ones. -/
def outsideValues (values : List Value) (value : Value) (path : String) :
    Verdict :=
  .violation path
    ("be one of: " ++ ", ".intercalate (values.map Value.display)) value

/-- The value is refused by all alternatives, with their messages. -/
def exhausted (messages : List String) (value : Value) (path : String) :
    Verdict :=
  .error
    { kind := .unionExhausted
      path
      message := path ++ " must match one of the union types. Errors: " ++
        "; ".intercalate messages
      value
      alternatives := messages }

def conformBare (kind : Kind) (value : Value) (path : String) : Verdict :=
  match kind with
  | .string =>
    match value with
    | .text _ => .unchanged value
    | _ => .mismatch .string value path
  | .number =>
    match value with
    | .number n =>
      if n.isNan then .mismatch .number value path else .unchanged value
    | _ => .mismatch .number value path
  | .boolean =>
    match value with
    | .bool _ => .unchanged value
    | _ => .mismatch .boolean value path
  | .function =>
    match value with
    | .function => .unchanged value
    | _ => .mismatch .function value path
  | .array =>
    match value with
    | .list _ | .tuple _ => .unchanged value
    | _ => .mismatch .array value path
  | .object =>
    match value with
    | .record _ => .unchanged value
    | _ => .mismatch .object value path
  | .enum => outsideValues [] value path
  | .union => exhausted [] value path
  | .any => .unchanged value

mutual

/-- Check a value that is neither absent nor known at render time only. -/
def conform : Schema → Value → String → Verdict
  | bare kind _, value, path => conformBare kind value path
  | string _ limits, value, path =>
    match value with
    | .text text => limits.check text path
    | _ => .mismatch .string value path
  | number _ limits, value, path =>
    match value with
    | .number n =>
      if n.isNan then .mismatch .number value path else limits.check n path
    | _ => .mismatch .number value path
  | array _ none size, value, path =>
    match value with
    | .list items => validateArray size none .list items path
    | .tuple items => validateArray size none .tuple items path
    | _ => .mismatch .array value path
  | array _ (some schema) size, value, path =>
    let validate := fun item itemPath =>
      schema.presence.judge item itemPath (conform schema item itemPath)
    match value with
    | .list items => validateArray size (some validate) .list items path
    | .tuple items => validateArray size (some validate) .tuple items path
    | _ => .mismatch .array value path
  | object _ none, value, path =>
    match value with
    | .record _ => .unchanged value
    | _ => .mismatch .object value path
  | object _ (some properties), value, path =>
    match value with
    | .record entries => do
      let (kept, dropped) ← conformProperties properties entries path
      let undeclared := (Entries.keys entries).filter fun key =>
        !Entries.has properties key
      return { value := .record kept,
               dropped := dropped ++ undeclared.map (path ++ "." ++ ·) }
    | _ => .mismatch .object value path
  | enum _ values, value, path =>
    if value.isMember values then .unchanged value
    else outsideValues values value path
  | union _ alternatives, value, path =>
    match conformAlternatives alternatives value path with
    | .ok accepted => .ok accepted
    | .error messages => exhausted messages value path

/-- Check the entries under the declared properties: the entries that are kept,
in the order of declaration, with all dropped paths, or the first failure. -/
def conformProperties :
    List (String × Schema) → List (String × Value) → String →
      Except Failure (List (String × Value) × List String)
  | [], _, _ => .ok ([], [])
  | (key, schema) :: rest, entries, path => do
    let given := (Entries.get? entries key).getD .missing
    let accepted ←
      schema.presence.judge given (path ++ "." ++ key)
        (conform schema given (path ++ "." ++ key))
    let (kept, dropped) ← conformProperties rest entries path
    if Entries.has entries key || !accepted.value.isNull then
      return ((key, accepted.value) :: kept, accepted.dropped ++ dropped)
    else return (kept, accepted.dropped ++ dropped)

/-- Check a value against alternatives in order: the first that accepts it, or
the messages of all. -/
def conformAlternatives :
    List Schema → Value → String → Except (List String) Accepted
  | [], _, _ => .error []
  | schema :: rest, value, path =>
    match schema.presence.judge value path (conform schema value path) with
    | .ok accepted => .ok accepted
    | .error failure =>
      match conformAlternatives rest value path with
      | .ok accepted => .ok accepted
      | .error messages => .error (failure.message :: messages)

end

def validate (schema : Schema) (value : Value) (path : String) : Verdict :=
  schema.presence.judge value path (schema.conform value path)

end Schema

end ViewCompiler
