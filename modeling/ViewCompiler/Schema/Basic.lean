import ViewCompiler.Pattern.Reader
import ViewCompiler.Value.Display

/-!
# Property schemas

A schema describes the values that a property may take: a shape with limits,
whether the property has to be given, and the value that stands in for it if it
is not.  Schemas nest in arrays, objects and unions.

The constructors `ofValues` and `ofAlternatives` refuse an enumeration or a
union without members.  A bare schema names only a shape and has no limits at
all; a bare enumeration has no allowed value and a bare union no alternative.
-/

namespace ViewCompiler

/-- Whether a property has to be given, and what stands in for it. -/
structure Presence where
  required : Bool := false
  default : Value := .null
  description : String := ""

/-- A bound of a limit: a number, or a truth value that counts as one or zero.
Any other value may be written as a bound too, but nothing can be compared with
it. -/
inductive Bound where
  | number (n : Number)
  | flag (b : Bool)
  | other (value : Value)
deriving Repr

namespace Bound

def int (n : Int) : Bound :=
  number (.int n)

/-- The number that a bound counts as. -/
def size? : Bound → Option Number
  | number n => some n
  | flag b => some (.int (if b then 1 else 0))
  | other _ => none

def value : Bound → Value
  | number n => .number n
  | flag b => .bool b
  | other value => value

def text (bound : Bound) : String :=
  bound.value.display

/-- The bound that a value is; null is none. -/
def ofValue? : Value → Option Bound
  | .null => none
  | .number n => some (number n)
  | .bool b => some (flag b)
  | value => some (other value)

/-- The number lies below the bound. -/
def undercut (number : Number) (bound : Bound) : Bool :=
  bound.size?.any fun size => number.lt size

/-- The number lies above the bound. -/
def exceeded (number : Number) (bound : Bound) : Bool :=
  bound.size?.any fun size => size.lt number

end Bound

structure TextLimits where
  minLength : Option Bound := none
  maxLength : Option Bound := none
  pattern : Option Pattern := none

structure NumberLimits where
  minimum : Option Bound := none
  maximum : Option Bound := none
  integer : Bool := false

structure SizeLimits where
  minItems : Option Bound := none
  maxItems : Option Bound := none

inductive Schema where
  /-- A shape without limits. -/
  | bare (kind : Kind) (presence : Presence)
  | string (presence : Presence) (limits : TextLimits)
  | number (presence : Presence) (limits : NumberLimits)
  /-- An array, with a schema for every item if there is one. -/
  | array (presence : Presence) (items : Option Schema) (size : SizeLimits)
  /-- An object; with declared properties only those survive. -/
  | object (presence : Presence) (properties : Option (List (String × Schema)))
  | enum (presence : Presence) (values : List Value)
  | union (presence : Presence) (alternatives : List Schema)

inductive SchemaError where
  | pattern (fault : PatternFault)
  | noAllowedValue
  | noAlternative
  | unknownKind (found : Value)
  /-- A part is given that schemas of the shape do not have. -/
  | unknownPart (kind : Kind) (name : String)

def SchemaError.message : SchemaError → String
  | pattern .broken => "the pattern is broken"
  | pattern .largeRepetition => "the repetition number is too large"
  | pattern (.longInteger digits) => Decimal.longIntegerMessage digits
  | pattern .unsupported => "the pattern has a form that is not supported"
  | noAllowedValue => "enum schema needs at least one allowed value"
  | noAlternative => "union schema needs at least one alternative"
  | unknownKind found => found.displayNested ++ " is not a valid SchemaKind"
  | unknownPart kind name =>
    "Schema." ++ kind.name ++ "() got an unexpected keyword argument '" ++
      name ++ "'"

/-- The shape that a value names. -/
def Kind.ofValue (value : Value) : Except SchemaError Kind :=
  let kinds : List Kind :=
    [.string, .number, .boolean, .function, .array, .object, .enum, .union,
      .any]
  match kinds.find? fun kind => (Value.text kind.name).same value with
  | some kind => .ok kind
  | none => .error (.unknownKind value)

/-- The names of the limits of a shape. -/
def Kind.limitNames : Kind → List String
  | .string => ["min_length", "max_length", "pattern"]
  | .number => ["minimum", "maximum", "integer"]
  | .array => ["items", "min_items", "max_items"]
  | .object => ["properties"]
  | .enum => ["values"]
  | .union => ["alternatives"]
  | _ => []

/-- Refuse a part that schemas of a shape do not have. -/
def Kind.takeParts (kind : Kind) (names : List String) :
    Except SchemaError Unit :=
  let known := ["required", "default", "description"] ++ kind.limitNames
  match names.find? fun name => !known.contains name with
  | some name => .error (.unknownPart kind name)
  | none => .ok ()

namespace Schema

def kind : Schema → Kind
  | bare kind _ => kind
  | string _ _ => .string
  | number _ _ => .number
  | array _ _ _ => .array
  | object _ _ => .object
  | enum _ _ => .enum
  | union _ _ => .union

/-- Whether and how the property has to be given. -/
def presence : Schema → Presence
  | bare _ presence => presence
  | string presence _ => presence
  | number presence _ => presence
  | array presence _ _ => presence
  | object presence _ => presence
  | enum presence _ => presence
  | union presence _ => presence

/-- The same shape and limits with another presence. -/
def withPresence (presence : Presence) : Schema → Schema
  | bare kind _ => bare kind presence
  | string _ limits => string presence limits
  | number _ limits => number presence limits
  | array _ items size => array presence items size
  | object _ properties => object presence properties
  | enum _ values => enum presence values
  | union _ alternatives => union presence alternatives

def required (schema : Schema) : Bool :=
  schema.presence.required

/-- What stands in for the property if it is not given. -/
def default (schema : Schema) : Value :=
  schema.presence.default

/-- The schema for a property that may be left out, with the value that then
stands in. -/
def optional (schema : Schema) (default : Value) : Schema :=
  schema.withPresence
    { schema.presence with required := false, default := default }

/-- The schema for a property that has to be given; nothing stands in for it. -/
def require (schema : Schema) : Schema :=
  schema.withPresence
    { schema.presence with required := true, default := .null }

def boolean (presence : Presence) : Schema :=
  bare .boolean presence

def function (presence : Presence) : Schema :=
  bare .function presence

def any (presence : Presence) : Schema :=
  bare .any presence

/-- A string schema whose pattern is given as a text. -/
def ofPattern (presence : Presence) (minLength maxLength : Option Bound)
    (pattern : Option String) : Except SchemaError Schema :=
  match pattern with
  | none => .ok (string presence ⟨minLength, maxLength, none⟩)
  | some source =>
    match Pattern.read source with
    | .error fault => .error (.pattern fault)
    | .ok pattern => .ok (string presence ⟨minLength, maxLength, some pattern⟩)

/-- An enumeration of at least one value. -/
def ofValues (presence : Presence) (values : List Value) :
    Except SchemaError Schema :=
  if values.isEmpty then .error .noAllowedValue else .ok (enum presence values)

/-- A union of at least one alternative. -/
def ofAlternatives (presence : Presence) (alternatives : List Schema) :
    Except SchemaError Schema :=
  if alternatives.isEmpty then .error .noAlternative
  else .ok (union presence alternatives)

mutual

/-- A compact name of the type that a schema describes, such as `array<string>`
or `enum(a|b)`. -/
def label : Schema → String
  | bare kind _ => kind.name
  | string _ _ => Kind.name .string
  | number _ _ => Kind.name .number
  | array _ none _ => Kind.name .array
  | array _ (some items) _ => "array<" ++ items.label ++ ">"
  | object _ _ => Kind.name .object
  | enum _ values =>
    "enum(" ++ "|".intercalate (values.map Value.display) ++ ")"
  | union _ alternatives =>
    "union(" ++ "|".intercalate (labels alternatives) ++ ")"

def labels : List Schema → List String
  | [] => []
  | schema :: rest => schema.label :: labels rest

end

/-- A bound as a value; null if there is none. -/
def boundValue (bound : Option Bound) : Value :=
  (bound.map Bound.value).getD .null

def textFields (limits : TextLimits) : Value :=
  .fields "StringConstraints"
    [("min_length", boundValue limits.minLength),
      ("max_length", boundValue limits.maxLength),
      ("pattern",
        (limits.pattern.map fun pattern => .text pattern.source).getD .null)]

def numberFields (limits : NumberLimits) : Value :=
  .fields "NumberConstraints"
    [("minimum", boundValue limits.minimum),
      ("maximum", boundValue limits.maximum), ("integer", .bool limits.integer)]

/-- The fields of the limits of arrays, with the description of the items. -/
def sizeFields (items : Value) (size : SizeLimits) : Value :=
  .fields "ArrayConstraints"
    [("items", items), ("min_items", boundValue size.minItems),
      ("max_items", boundValue size.maxItems)]

/-- The description of a schema, from its limits. -/
def cardWith (schema : Schema) (limits : Value) : Value :=
  .card schema.kind schema.required schema.default schema.presence.description
    schema.label limits

mutual

/-- The description of a schema. -/
def card : Schema → Value
  | bare kind presence => (bare kind presence).cardWith .null
  | string presence limits =>
    (string presence limits).cardWith (textFields limits)
  | number presence limits =>
    (number presence limits).cardWith (numberFields limits)
  | array presence none size =>
    (array presence none size).cardWith (sizeFields .null size)
  | array presence (some items) size =>
    (array presence (some items) size).cardWith (sizeFields items.card size)
  | object presence none =>
    (object presence none).cardWith
      (.fields "ObjectConstraints" [("properties", .null)])
  | object presence (some properties) =>
    (object presence (some properties)).cardWith
      (.fields "ObjectConstraints"
        [("properties", .tuple (propertyCards properties))])
  | enum presence values =>
    (enum presence values).cardWith
      (.fields "EnumConstraints" [("values", .tuple values)])
  | union presence alternatives =>
    (union presence alternatives).cardWith
      (.fields "UnionConstraints"
        [("alternatives", .tuple (cards alternatives))])

def cards : List Schema → List Value
  | [] => []
  | schema :: rest => schema.card :: cards rest

/-- The names of properties with the descriptions of their schemas. -/
def propertyCards : List (String × Schema) → List Value
  | [] => []
  | (key, schema) :: rest =>
    .tuple [.text key, schema.card] :: propertyCards rest

end

end Schema

end ViewCompiler
