import ViewCompiler.Schema.Validation

/-!
# Comparisons that cannot be made

A bound of a limit may be a value that is no number.  `Schema.validate` takes
such a bound for no limit at all.  This module finds out whether checking a
value gets to such a bound: checks are made in order, so a failure before it
keeps the comparison from being made, and so does an alternative that accepts
the value.  A value for which `Schema.comparison?` finds a comparison has no
verdict.
-/

namespace ViewCompiler

/-- A comparison of a number with a value that is none. -/
structure Comparison where
  relation : String
  number : Number
  bound : Value
deriving Repr

def Comparison.message (comparison : Comparison) : String :=
  "'" ++ comparison.relation ++ "' not supported between instances of '" ++
    (Value.number comparison.number).typeName ++ "' and '" ++
    comparison.bound.typeName ++ "'"

namespace Bound

/-- The value of a bound that is no number. -/
def other? : Bound → Option Value
  | other value => some value
  | _ => none

/-- The first comparison that cannot be made when a number is held against two
bounds.  A number below the first one is not compared with the second. -/
def comparison? (least most : Option Bound) (number : Number) :
    Option Comparison :=
  match least.bind other? with
  | some bound => some ⟨"<", number, bound⟩
  | none =>
    if least.any (undercut number) then none
    else (most.bind other?).map fun bound => ⟨">", number, bound⟩

end Bound

namespace Schema

/-- The first comparison in a row of items, as far as they are accepted. -/
def itemsComparison? (compare : Value → Option Comparison)
    (accepts : Value → Bool) : List Value → Option Comparison
  | [] => none
  | item :: rest =>
    match compare item with
    | some comparison => some comparison
    | none =>
      if accepts item then itemsComparison? compare accepts rest else none

/-- The first comparison in an array with limits and a way to look at its
items. -/
def arrayComparison? (size : SizeLimits)
    (inItems : List Value → Option Comparison) (value : Value) :
    Option Comparison :=
  match value with
  | .list items | .tuple items =>
    (Bound.comparison? size.minItems size.maxItems (.int items.length)).or
      (if (size.breach items.length).isSome then none else inItems items)
  | _ => none

mutual

/-- The first comparison that cannot be made when a value is checked against a
schema. -/
def comparison? : Schema → Value → Option Comparison
  | bare _ _, _ => none
  | string _ limits, value =>
    match value with
    | .text text =>
      Bound.comparison? limits.minLength limits.maxLength (.int text.length)
    | _ => none
  | number _ limits, value =>
    match value with
    | .number n =>
      if n.isNan then none
      else Bound.comparison? limits.minimum limits.maximum n
    | _ => none
  | array _ none size, value => arrayComparison? size (fun _ => none) value
  | array _ (some schema) size, value =>
    let compare := fun item => comparison? schema item
    arrayComparison? size
      (itemsComparison? compare fun item => (schema.validate item "").isOk)
      value
  | object _ none, _ => none
  | object _ (some properties), value =>
    match value with
    | .record entries => propertiesComparison? properties entries
    | _ => none
  | enum _ _, _ => none
  | union _ alternatives, value => alternativesComparison? alternatives value

/-- The first comparison under declared properties, as far as they are
accepted. -/
def propertiesComparison? : List (String × Schema) → List (String × Value) →
    Option Comparison
  | [], _ => none
  | (key, schema) :: rest, entries =>
    let given := (Entries.get? entries key).getD .missing
    match comparison? schema given with
    | some comparison => some comparison
    | none =>
      if (schema.validate given "").isOk then propertiesComparison? rest entries
      else none

/-- The first comparison in a row of alternatives, as far as they refuse the
value. -/
def alternativesComparison? : List Schema → Value → Option Comparison
  | [], _ => none
  | schema :: rest, value =>
    match comparison? schema value with
    | some comparison => some comparison
    | none =>
      if (schema.validate value "").isOk then none
      else alternativesComparison? rest value

end

end Schema

end ViewCompiler
