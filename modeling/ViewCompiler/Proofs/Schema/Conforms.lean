import ViewCompiler.Proofs.General
import ViewCompiler.Schema.Comparison
import Mathlib.Data.List.Basic

/-!
# Conforming values

Which values a schema describes, said without regard to how they are checked.
`Conforms` is the relation between schemas and values, and `Yields` says what
becomes of a conforming value.  A check stops at the first breach, collects
results as it goes along and takes the first alternative that accepts; the
relations quantify over all items, all declared properties and some
alternative.

Absent values and values known at render time only are dealt with before the
shape of a schema counts.  Each relation therefore has a second one beside it
for the values that are there: `Fits` beside `Conforms` and `Becomes` beside
`Yields`.

The last two sections say what it takes for a check to succeed, limit by limit
and part by part.
-/

namespace ViewCompiler

/-- The value is there and is known before anything is rendered. -/
def Value.isConcrete : Value → Bool
  | .null => false
  | .missing => false
  | .runtime _ => false
  | _ => true

/-- The entry under a key, or its absence. -/
def Value.entry (entries : List (String × Value)) (key : String) : Value :=
  (Entries.get? entries key).getD .missing

structure TextLimits.Meets (limits : TextLimits) (text : String) : Prop where
  minLength : ∀ bound ∈ limits.minLength,
    ¬Bound.undercut (.int text.length) bound
  maxLength : ∀ bound ∈ limits.maxLength,
    ¬Bound.exceeded (.int text.length) bound
  pattern : ∀ pattern ∈ limits.pattern, pattern.found text

structure NumberLimits.Meets (limits : NumberLimits) (number : Number) :
    Prop where
  minimum : ∀ bound ∈ limits.minimum, ¬Bound.undercut number bound
  maximum : ∀ bound ∈ limits.maximum, ¬Bound.exceeded number bound
  integer : limits.integer → number.isWhole

structure SizeLimits.Meets (limits : SizeLimits) (count : Nat) : Prop where
  minItems : ∀ bound ∈ limits.minItems, ¬Bound.undercut (.int count) bound
  maxItems : ∀ bound ∈ limits.maxItems, ¬Bound.exceeded (.int count) bound

namespace Schema

mutual

/-- The value is one of those that the schema describes. -/
inductive Conforms : Schema → Value → Prop
  | absent {schema : Schema} {value : Value}
      (habsent : value.isAbsent) (hoptional : ¬schema.required) :
      Conforms schema value
  | runtime {schema : Schema} {source : String} :
      Conforms schema (.runtime source)
  | concrete {schema : Schema} {value : Value}
      (hconcrete : value.isConcrete) (hfits : Fits schema value) :
      Conforms schema value

/-- The value has the shape of the schema and keeps its limits. -/
inductive Fits : Schema → Value → Prop
  | string {presence : Presence} {limits : TextLimits} {text : String}
      (hlimits : limits.Meets text) :
      Fits (.string presence limits) (.text text)
  | number {presence : Presence} {limits : NumberLimits} {number : Number}
      (hnumber : ¬number.isNan) (hlimits : limits.Meets number) :
      Fits (.number presence limits) (.number number)
  | boolean {presence : Presence} {b : Bool} :
      Fits (.bare .boolean presence) (.bool b)
  | function {presence : Presence} : Fits (.bare .function presence) .function
  | list {presence : Presence} {items : Option Schema} {size : SizeLimits}
      {values : List Value} (hsize : size.Meets values.length)
      (hitems : ∀ schema ∈ items, ∀ value ∈ values, Conforms schema value) :
      Fits (.array presence items size) (.list values)
  | tuple {presence : Presence} {items : Option Schema} {size : SizeLimits}
      {values : List Value} (hsize : size.Meets values.length)
      (hitems : ∀ schema ∈ items, ∀ value ∈ values, Conforms schema value) :
      Fits (.array presence items size) (.tuple values)
  | object {presence : Presence}
      {properties : Option (List (String × Schema))}
      {entries : List (String × Value)}
      (hproperties : ∀ declared ∈ properties, ∀ property ∈ declared,
        Conforms property.2 (Value.entry entries property.1)) :
      Fits (.object presence properties) (.record entries)
  | enum {presence : Presence} {values : List Value} {value : Value}
      (hmember : value.isMember values) : Fits (.enum presence values) value
  | union {presence : Presence} {alternatives : List Schema}
      {alternative : Schema} {value : Value}
      (hmem : alternative ∈ alternatives)
      (hconforms : Conforms alternative value) :
      Fits (.union presence alternatives) value
  | any {presence : Presence} {value : Value} :
      Fits (.bare .any presence) value

end

/-- The schema has no schemas inside that values could be changed by. -/
def isPlain : Schema → Bool
  | .array _ items _ => items.isNone
  | .object _ properties => properties.isNone
  | .union _ _ => false
  | _ => true

/-- What remains of an object: the declared entries, in the order of
declaration, that were given or have something to stand in for them. -/
def keptEntries (properties : List (String × Schema))
    (entries : List (String × Value)) (result : String × Schema → Value) :
    List (String × Value) :=
  (properties.map fun property =>
      (property.1, result property)).filter fun entry =>
    Entries.has entries entry.1 || !entry.2.isNull

mutual

/-- What an accepted value comes to; a default stands in for an absent one. -/
inductive Yields : Schema → Value → Value → Prop
  | default {schema : Schema} {value : Value} (habsent : value.isAbsent) :
      Yields schema value schema.default
  | runtime {schema : Schema} {source : String} :
      Yields schema (.runtime source) (.runtime source)
  | concrete {schema : Schema} {value out : Value}
      (hconcrete : value.isConcrete) (hbecomes : Becomes schema value out) :
      Yields schema value out

/-- What a value that is there comes to.  Items and entries become what they
yield, a list stays a list and a tuple a tuple, and the first alternative that
a value conforms to decides. -/
inductive Becomes : Schema → Value → Value → Prop
  | unchanged {schema : Schema} {value : Value} (hplain : schema.isPlain) :
      Becomes schema value value
  | list {presence : Presence} {schema : Schema} {size : SizeLimits}
      {values : List Value} (result : Value → Value)
      (hitems : ∀ value ∈ values, Yields schema value (result value)) :
      Becomes (.array presence (some schema) size) (.list values)
        (.list (values.map result))
  | tuple {presence : Presence} {schema : Schema} {size : SizeLimits}
      {values : List Value} (result : Value → Value)
      (hitems : ∀ value ∈ values, Yields schema value (result value)) :
      Becomes (.array presence (some schema) size) (.tuple values)
        (.tuple (values.map result))
  | object {presence : Presence} {properties : List (String × Schema)}
      {entries : List (String × Value)} (result : String × Schema → Value)
      (hproperties : ∀ property ∈ properties,
        Yields property.2 (Value.entry entries property.1)
          (result property)) :
      Becomes (.object presence (some properties)) (.record entries)
        (.record (keptEntries properties entries result))
  | union {presence : Presence} {before after : List Schema}
      {alternative : Schema} {value result : Value}
      (hbefore : ∀ earlier ∈ before, ¬Conforms earlier value)
      (hconforms : Conforms alternative value)
      (hyields : Yields alternative value result) :
      Becomes (.union presence (before ++ alternative :: after)) value result

end

/-- The constructors of schemas, with bounds that numbers can be compared
with. -/
inductive Built : Schema → Prop
  | string {presence : Presence} {minLength maxLength : Option Bound}
      {pattern : Option String} {schema : Schema}
      (hmin : minLength.bind Bound.other? = none)
      (hmax : maxLength.bind Bound.other? = none)
      (hschema : ofPattern presence minLength maxLength pattern = .ok schema) :
      Built schema
  | number {presence : Presence} {limits : NumberLimits}
      (hmin : limits.minimum.bind Bound.other? = none)
      (hmax : limits.maximum.bind Bound.other? = none) :
      Built (.number presence limits)
  | boolean {presence : Presence} : Built (boolean presence)
  | function {presence : Presence} : Built (function presence)
  | array {presence : Presence} {items : Option Schema} {size : SizeLimits}
      (hmin : size.minItems.bind Bound.other? = none)
      (hmax : size.maxItems.bind Bound.other? = none)
      (hitems : ∀ schema ∈ items, Built schema) :
      Built (.array presence items size)
  | object {presence : Presence}
      {properties : Option (List (String × Schema))}
      (hproperties : ∀ declared ∈ properties, ∀ property ∈ declared,
        Built property.2) :
      Built (.object presence properties)
  | enum {presence : Presence} {values : List Value} {schema : Schema}
      (hschema : ofValues presence values = .ok schema) :
      Built schema
  | union {presence : Presence} {alternatives : List Schema}
      {schema : Schema}
      (halternatives : ∀ alternative ∈ alternatives, Built alternative)
      (hschema : ofAlternatives presence alternatives = .ok schema) :
      Built schema
  | any {presence : Presence} : Built (any presence)

end Schema

/-! ## Absent, render-time and concrete values -/

theorem Value.isAbsent_or_runtime_or_concrete (value : Value) :
    value.isAbsent ∨ (∃ source, value = .runtime source) ∨
      value.isConcrete := by
  cases value with
  | null => exact Or.inl rfl
  | missing => exact Or.inl rfl
  | runtime source => exact Or.inr (Or.inl ⟨source, rfl⟩)
  | _ => exact Or.inr (Or.inr rfl)

theorem Value.isAbsent_of_isConcrete {value : Value}
    (hconcrete : value.isConcrete) : ¬value.isAbsent := by
  cases value <;> simp_all [Value.isConcrete, Value.isAbsent]

namespace Presence

variable {presence : Presence} {value : Value} {path : String}
  {verdict : Verdict}

theorem judge_absent (habsent : value.isAbsent) :
    presence.judge value path verdict =
      if presence.required then
        .error
          { kind := .missingRequired, path, message := path ++ " is required" }
      else .unchanged presence.default := by
  cases value with
  | null => rfl
  | missing => rfl
  | _ => contradiction

theorem judge_concrete (hconcrete : value.isConcrete) :
    presence.judge value path verdict = verdict := by
  cases value with
  | null => contradiction
  | missing => contradiction
  | runtime source => contradiction
  | _ => rfl

end Presence

namespace Schema

theorem validate_concrete {value : Value} (hconcrete : value.isConcrete)
    (schema : Schema) (path : String) :
    schema.validate value path = schema.conform value path :=
  Presence.judge_concrete hconcrete

theorem conforms_absent_iff {schema : Schema} {value : Value}
    (habsent : value.isAbsent) :
    Conforms schema value ↔ ¬schema.required := by
  constructor
  · intro hconforms
    cases hconforms with
    | absent _ hoptional => exact hoptional
    | runtime => contradiction
    | concrete hconcrete _ =>
        exact absurd habsent (Value.isAbsent_of_isConcrete hconcrete)
  · intro hoptional
    exact .absent habsent hoptional

theorem conforms_concrete_iff {schema : Schema} {value : Value}
    (hconcrete : value.isConcrete) :
    Conforms schema value ↔ Fits schema value := by
  constructor
  · intro hconforms
    cases hconforms with
    | absent habsent _ =>
        exact absurd habsent (Value.isAbsent_of_isConcrete hconcrete)
    | runtime => contradiction
    | concrete _ hfits => exact hfits
  · intro hfits
    exact .concrete hconcrete hfits

theorem yields_absent_iff {schema : Schema} {value out : Value}
    (habsent : value.isAbsent) :
    Yields schema value out ↔ out = schema.default := by
  constructor
  · intro hyields
    cases hyields with
    | default _ => rfl
    | runtime => contradiction
    | concrete hconcrete _ =>
        exact absurd habsent (Value.isAbsent_of_isConcrete hconcrete)
  · rintro rfl
    exact .default habsent

theorem yields_runtime_iff {schema : Schema} {source : String} {out : Value} :
    Yields schema (.runtime source) out ↔ out = .runtime source := by
  constructor
  · intro hyields
    cases hyields with
    | default habsent => contradiction
    | runtime => rfl
    | concrete hconcrete _ => contradiction
  · rintro rfl
    exact .runtime

theorem yields_concrete_iff {schema : Schema} {value out : Value}
    (hconcrete : value.isConcrete) :
    Yields schema value out ↔ Becomes schema value out := by
  constructor
  · intro hyields
    cases hyields with
    | default habsent =>
        exact absurd habsent (Value.isAbsent_of_isConcrete hconcrete)
    | runtime => contradiction
    | concrete _ hbecomes => exact hbecomes
  · intro hbecomes
    exact .concrete hconcrete hbecomes

theorem becomes_iff_of_isPlain {schema : Schema} {value out : Value}
    (hplain : schema.isPlain) : Becomes schema value out ↔ out = value := by
  constructor
  · intro hbecomes
    cases hbecomes with
    | unchanged _ => rfl
    | _ => contradiction
  · rintro rfl
    exact .unchanged hplain

/-! ## Values of a shape -/

section Fits

variable {presence : Presence} {value : Value}

theorem fits_string_iff {limits : TextLimits} :
    Fits (.string presence limits) value ↔
      ∃ text, value = .text text ∧ limits.Meets text := by
  constructor
  · intro hfits
    cases hfits with
    | string hlimits => exact ⟨_, rfl, hlimits⟩
  · rintro ⟨text, rfl, hlimits⟩
    exact .string hlimits

theorem fits_number_iff {limits : NumberLimits} :
    Fits (.number presence limits) value ↔
      ∃ number, value = .number number ∧ ¬number.isNan ∧
        limits.Meets number := by
  constructor
  · intro hfits
    cases hfits with
    | number hnumber hlimits => exact ⟨_, rfl, hnumber, hlimits⟩
  · rintro ⟨number, rfl, hnumber, hlimits⟩
    exact .number hnumber hlimits

theorem fits_boolean_iff :
    Fits (boolean presence) value ↔ ∃ b, value = .bool b := by
  constructor
  · intro hfits
    cases hfits with
    | boolean => exact ⟨_, rfl⟩
  · rintro ⟨b, rfl⟩
    exact .boolean

theorem fits_function_iff :
    Fits (function presence) value ↔ value = .function := by
  constructor
  · intro hfits
    cases hfits with
    | function => rfl
  · rintro rfl
    exact .function

theorem fits_array_iff {items : Option Schema} {size : SizeLimits} :
    Fits (.array presence items size) value ↔
      ∃ values, (value = .list values ∨ value = .tuple values) ∧
        size.Meets values.length ∧
        ∀ schema ∈ items, ∀ item ∈ values, Conforms schema item := by
  constructor
  · intro hfits
    cases hfits with
    | list hsize hitems => exact ⟨_, Or.inl rfl, hsize, hitems⟩
    | tuple hsize hitems => exact ⟨_, Or.inr rfl, hsize, hitems⟩
  · rintro ⟨values, rfl | rfl, hsize, hitems⟩
    · exact .list hsize hitems
    · exact .tuple hsize hitems

theorem fits_object_iff {properties : Option (List (String × Schema))} :
    Fits (.object presence properties) value ↔
      ∃ entries, value = .record entries ∧
        ∀ declared ∈ properties, ∀ property ∈ declared,
          Conforms property.2 (Value.entry entries property.1) := by
  constructor
  · intro hfits
    cases hfits with
    | object hproperties => exact ⟨_, rfl, hproperties⟩
  · rintro ⟨entries, rfl, hproperties⟩
    exact .object hproperties

theorem fits_enum_iff {values : List Value} :
    Fits (.enum presence values) value ↔ value.isMember values := by
  constructor
  · intro hfits
    cases hfits with
    | enum hmember => exact hmember
  · exact .enum

theorem fits_union_iff {alternatives : List Schema} :
    Fits (.union presence alternatives) value ↔
      ∃ alternative ∈ alternatives, Conforms alternative value := by
  constructor
  · intro hfits
    cases hfits with
    | union hmem hconforms => exact ⟨_, hmem, hconforms⟩
  · rintro ⟨alternative, hmem, hconforms⟩
    exact .union hmem hconforms

end Fits

end Schema

/-! ## Limits -/

theorem Verdict.violation_ne_ok {path message : String} {value : Value}
    {accepted : Accepted} :
    Verdict.violation path message value ≠ .ok accepted := by
  simp [Verdict.violation]

theorem TextLimits.check_eq_ok_iff {limits : TextLimits} {text path : String}
    {accepted : Accepted} :
    limits.check text path = .ok accepted ↔
      limits.Meets text ∧ accepted = { value := .text text } := by
  unfold TextLimits.check
  dsimp only
  cases hmin : limits.minLength.filter (Bound.undercut (.int text.length)) with
  | some bound =>
      obtain ⟨hbound, hbreach⟩ := Option.filter_eq_some_iff.mp hmin
      simp only [Verdict.violation_ne_ok, false_iff]
      rintro ⟨hmeets, _⟩
      exact hmeets.minLength bound hbound hbreach
  | none =>
      cases hmax : limits.maxLength.filter
          (Bound.exceeded (.int text.length)) with
      | some bound =>
          obtain ⟨hbound, hbreach⟩ := Option.filter_eq_some_iff.mp hmax
          simp only [Verdict.violation_ne_ok, false_iff]
          rintro ⟨hmeets, _⟩
          exact hmeets.maxLength bound hbound hbreach
      | none =>
          cases hpattern : limits.pattern.filter (!·.found text) with
          | some pattern =>
              obtain ⟨hfound, hbreach⟩ := Option.filter_eq_some_iff.mp hpattern
              simp only [Verdict.violation_ne_ok, false_iff]
              rintro ⟨hmeets, _⟩
              simp [hmeets.pattern pattern hfound] at hbreach
          | none =>
              have hmeets : limits.Meets text := by
                constructor
                · exact Option.filter_eq_none_iff.mp hmin
                · exact Option.filter_eq_none_iff.mp hmax
                · intro pattern hmem
                  simpa using Option.filter_eq_none_iff.mp hpattern pattern hmem
              simp only [Verdict.unchanged, Except.ok.injEq, hmeets, true_and]
              exact eq_comm

theorem NumberLimits.check_eq_ok_iff {limits : NumberLimits}
    {number : Number} {path : String} {accepted : Accepted} :
    limits.check number path = .ok accepted ↔
      limits.Meets number ∧ accepted = { value := .number number } := by
  unfold NumberLimits.check
  cases hmin : limits.minimum.filter (Bound.undercut number) with
  | some bound =>
      obtain ⟨hbound, hbreach⟩ := Option.filter_eq_some_iff.mp hmin
      simp only [Verdict.violation_ne_ok, false_iff]
      rintro ⟨hmeets, _⟩
      exact hmeets.minimum bound hbound hbreach
  | none =>
      cases hmax : limits.maximum.filter (Bound.exceeded number) with
      | some bound =>
          obtain ⟨hbound, hbreach⟩ := Option.filter_eq_some_iff.mp hmax
          simp only [Verdict.violation_ne_ok, false_iff]
          rintro ⟨hmeets, _⟩
          exact hmeets.maximum bound hbound hbreach
      | none =>
          by_cases hinteger : (limits.integer && !number.isWhole) = true
          · simp only [hinteger, if_true, Verdict.violation_ne_ok, false_iff]
            rintro ⟨hmeets, _⟩
            rw [Bool.and_eq_true] at hinteger
            simp [hmeets.integer hinteger.1] at hinteger
          · have hmeets : limits.Meets number := by
              constructor
              · exact Option.filter_eq_none_iff.mp hmin
              · exact Option.filter_eq_none_iff.mp hmax
              · intro hflag
                simpa [hflag] using hinteger
            dsimp only
            rw [if_neg hinteger]
            simp only [Verdict.unchanged, Except.ok.injEq, hmeets, true_and]
            exact eq_comm

theorem SizeLimits.breach_eq_none_iff {limits : SizeLimits} {count : Nat} :
    limits.breach count = none ↔ limits.Meets count := by
  unfold SizeLimits.breach
  cases hmin : limits.minItems.filter (Bound.undercut (.int count)) with
  | some bound =>
      obtain ⟨hbound, hbreach⟩ := Option.filter_eq_some_iff.mp hmin
      simp only [reduceCtorEq, false_iff]
      intro hmeets
      exact hmeets.minItems bound hbound hbreach
  | none =>
      cases hmax : limits.maxItems.filter (Bound.exceeded (.int count)) with
      | some bound =>
          obtain ⟨hbound, hbreach⟩ := Option.filter_eq_some_iff.mp hmax
          simp only [reduceCtorEq, false_iff]
          intro hmeets
          exact hmeets.maxItems bound hbound hbreach
      | none =>
          simp only [true_iff]
          constructor
          · exact Option.filter_eq_none_iff.mp hmin
          · exact Option.filter_eq_none_iff.mp hmax

namespace Schema

/-! ## Successful checks -/

theorem conform_union_eq_ok_iff {presence : Presence}
    {alternatives : List Schema} {value : Value} {path : String}
    {accepted : Accepted} :
    conform (.union presence alternatives) value path = .ok accepted ↔
      conformAlternatives alternatives value path = .ok accepted := by
  simp only [conform]
  cases conformAlternatives alternatives value path with
  | ok found => simp
  | error messages => simp [exhausted]

theorem validateArray_none_eq_ok_iff {size : SizeLimits}
    {rebuild : List Value → Value} {items : List Value} {path : String}
    {accepted : Accepted} :
    validateArray size none rebuild items path = .ok accepted ↔
      size.Meets items.length ∧ accepted = { value := rebuild items } := by
  rw [← SizeLimits.breach_eq_none_iff]
  unfold validateArray
  cases hbreach : size.breach items.length with
  | some message => simp [Verdict.violation]
  | none => simp [Verdict.unchanged, eq_comm]

theorem validateArray_some_eq_ok_iff {size : SizeLimits}
    {validate : Value → String → Verdict} {rebuild : List Value → Value}
    {items : List Value} {path : String} {accepted : Accepted} :
    validateArray size (some validate) rebuild items path = .ok accepted ↔
      size.Meets items.length ∧
        ∃ found dropped,
          validateItems validate path 0 items = .ok (found, dropped) ∧
            accepted = { value := rebuild found, dropped } := by
  rw [← SizeLimits.breach_eq_none_iff]
  unfold validateArray
  cases hbreach : size.breach items.length with
  | some message => simp [Verdict.violation]
  | none =>
      simp only [true_and, Except.bind_eq_ok_iff]
      constructor
      · rintro ⟨⟨found, dropped⟩, hitems, hresult⟩
        simp only [pure, Except.pure, Except.ok.injEq] at hresult
        exact ⟨found, dropped, hitems, hresult.symm⟩
      · rintro ⟨found, dropped, hitems, rfl⟩
        exact ⟨(found, dropped), hitems, rfl⟩

/-- The check of an array with a schema for its items. -/
theorem conform_items_eq_ok_iff {presence : Presence} {schema : Schema}
    {size : SizeLimits} {value : Value} {path : String}
    {accepted : Accepted} :
    conform (.array presence (some schema) size) value path = .ok accepted ↔
      ∃ values found dropped,
        ((value = .list values ∧ accepted = { value := .list found, dropped }) ∨
          (value = .tuple values ∧
            accepted = { value := .tuple found, dropped })) ∧
          size.Meets values.length ∧
          validateItems schema.validate path 0 values =
            .ok (found, dropped) := by
  have hcheck : ∀ rebuild values,
      validateArray size
          (some fun item itemPath =>
            schema.presence.judge item itemPath (conform schema item itemPath))
          rebuild values path = .ok accepted ↔
        size.Meets values.length ∧
          ∃ found dropped,
            validateItems schema.validate path 0 values =
                .ok (found, dropped) ∧
              accepted = { value := rebuild found, dropped } :=
    fun _ _ => validateArray_some_eq_ok_iff
  cases value with
  | list values =>
      simp only [conform, hcheck]
      constructor
      · rintro ⟨hsize, found, dropped, hitems, rfl⟩
        exact ⟨values, found, dropped, Or.inl ⟨rfl, rfl⟩, hsize, hitems⟩
      · rintro ⟨_, found, dropped, ⟨hvalue, rfl⟩ | ⟨hvalue, _⟩, hsize, hitems⟩
        · cases hvalue
          exact ⟨hsize, found, dropped, hitems, rfl⟩
        · contradiction
  | tuple values =>
      simp only [conform, hcheck]
      constructor
      · rintro ⟨hsize, found, dropped, hitems, rfl⟩
        exact ⟨values, found, dropped, Or.inr ⟨rfl, rfl⟩, hsize, hitems⟩
      · rintro ⟨_, found, dropped, ⟨hvalue, _⟩ | ⟨hvalue, rfl⟩, hsize, hitems⟩
        · contradiction
        · cases hvalue
          exact ⟨hsize, found, dropped, hitems, rfl⟩
  | _ => simp [conform, Verdict.mismatch]

theorem conform_properties_eq_ok_iff {presence : Presence}
    {properties : List (String × Schema)} {value : Value} {path : String}
    {accepted : Accepted} :
    conform (.object presence (some properties)) value path = .ok accepted ↔
      ∃ entries kept dropped,
        value = .record entries ∧
          conformProperties properties entries path = .ok (kept, dropped) ∧
          accepted =
            { value := .record kept
              dropped := dropped ++
                ((Entries.keys entries).filter fun key =>
                  !Entries.has properties key).map (path ++ "." ++ ·) } := by
  cases value with
  | record entries =>
      simp only [conform, Except.bind_eq_ok_iff]
      constructor
      · rintro ⟨⟨kept, dropped⟩, hproperties, hresult⟩
        simp only [pure, Except.pure, Except.ok.injEq] at hresult
        exact ⟨entries, kept, dropped, rfl, hproperties, hresult.symm⟩
      · rintro ⟨_, kept, dropped, hvalue, hproperties, rfl⟩
        cases hvalue
        exact ⟨(kept, dropped), hproperties, rfl⟩
  | _ => simp [conform, Verdict.mismatch]

theorem conformProperties_cons {key : String} {schema : Schema}
    {rest : List (String × Schema)} {entries : List (String × Value)}
    {path : String} {kept : List (String × Value)} {dropped : List String} :
    conformProperties ((key, schema) :: rest) entries path =
        .ok (kept, dropped) ↔
      ∃ accepted tail tailDropped,
        schema.validate (Value.entry entries key) (path ++ "." ++ key) =
            .ok accepted ∧
          conformProperties rest entries path = .ok (tail, tailDropped) ∧
          kept =
            (if Entries.has entries key || !accepted.value.isNull then
              (key, accepted.value) :: tail
            else tail) ∧
          dropped = accepted.dropped ++ tailDropped := by
  simp only [conformProperties, Except.bind_eq_ok_iff]
  constructor
  · rintro ⟨accepted, hentry, ⟨tail, tailDropped⟩, hrest, hresult⟩
    refine ⟨accepted, tail, tailDropped, hentry, hrest, ?_⟩
    by_cases hkeep : (Entries.has entries key || !accepted.value.isNull) = true
    · rw [if_pos hkeep] at hresult ⊢
      simp only [pure, Except.pure, Except.ok.injEq, Prod.mk.injEq] at hresult
      exact ⟨hresult.1.symm, hresult.2.symm⟩
    · rw [if_neg hkeep] at hresult ⊢
      simp only [pure, Except.pure, Except.ok.injEq, Prod.mk.injEq] at hresult
      exact ⟨hresult.1.symm, hresult.2.symm⟩
  · rintro ⟨accepted, tail, tailDropped, hentry, hrest, rfl, rfl⟩
    refine ⟨accepted, hentry, (tail, tailDropped), hrest, ?_⟩
    by_cases hkeep : (Entries.has entries key || !accepted.value.isNull) = true
    · simp only [if_pos hkeep]
      rfl
    · simp only [if_neg hkeep]
      rfl

theorem conformAlternatives_cons_of_ok {schema : Schema} {value : Value}
    {path : String} {accepted : Accepted}
    (hok : schema.validate value path = .ok accepted) (rest : List Schema) :
    conformAlternatives (schema :: rest) value path = .ok accepted := by
  unfold validate at hok
  simp only [conformAlternatives, hok]

theorem conformAlternatives_cons_of_error {schema : Schema} {value : Value}
    {path : String} {failure : Failure}
    (herror : schema.validate value path = .error failure)
    {rest : List Schema} {accepted : Accepted} :
    conformAlternatives (schema :: rest) value path = .ok accepted ↔
      conformAlternatives rest value path = .ok accepted := by
  unfold validate at herror
  simp only [conformAlternatives, herror]
  cases conformAlternatives rest value path with
  | ok found => rfl
  | error messages => simp

/-- A value is checked against alternatives up to the first that accepts. -/
theorem conformAlternatives_eq_ok_iff {alternatives : List Schema}
    {value : Value} {path : String} {accepted : Accepted} :
    conformAlternatives alternatives value path = .ok accepted ↔
      ∃ before alternative after,
        alternatives = before ++ alternative :: after ∧
          (∀ earlier ∈ before, ∀ other,
            earlier.validate value path ≠ .ok other) ∧
          alternative.validate value path = .ok accepted := by
  induction alternatives with
  | nil => simp [conformAlternatives]
  | cons schema rest ih =>
      cases hschema : schema.validate value path with
      | ok first =>
          rw [conformAlternatives_cons_of_ok hschema, Except.ok.injEq]
          constructor
          · rintro rfl
            exact ⟨[], schema, rest, rfl, by simp, hschema⟩
          · rintro ⟨before, alternative, after, hsplit, hbefore, hok⟩
            cases before with
            | nil =>
                simp only [List.nil_append, List.cons.injEq] at hsplit
                rw [← hsplit.1, hschema, Except.ok.injEq] at hok
                exact hok
            | cons head tail =>
                simp only [List.cons_append, List.cons.injEq] at hsplit
                rw [← hsplit.1] at hbefore
                exact absurd hschema (hbefore schema (by simp) first)
      | error failure =>
          rw [conformAlternatives_cons_of_error hschema, ih]
          constructor
          · rintro ⟨before, alternative, after, rfl, hbefore, hok⟩
            refine ⟨schema :: before, alternative, after, rfl, ?_, hok⟩
            rw [List.forall_mem_cons]
            exact ⟨by simp [hschema], hbefore⟩
          · rintro ⟨before, alternative, after, hsplit, hbefore, hok⟩
            cases before with
            | nil =>
                simp only [List.nil_append, List.cons.injEq] at hsplit
                rw [← hsplit.1, hschema] at hok
                contradiction
            | cons head tail =>
                simp only [List.cons_append, List.cons.injEq] at hsplit
                rw [List.forall_mem_cons] at hbefore
                exact ⟨tail, alternative, after, hsplit.2, hbefore.2, hok⟩

theorem conformAlternatives_isOk_iff {alternatives : List Schema}
    {value : Value} {path : String} :
    (∃ accepted, conformAlternatives alternatives value path = .ok accepted) ↔
      ∃ alternative ∈ alternatives, ∃ accepted,
        alternative.validate value path = .ok accepted := by
  induction alternatives with
  | nil => simp [conformAlternatives]
  | cons schema rest ih =>
      rw [List.exists_mem_cons_iff]
      cases hschema : schema.validate value path with
      | ok first =>
          have hfirst := conformAlternatives_cons_of_ok hschema rest
          simp [hfirst]
      | error failure =>
          simp only [conformAlternatives_cons_of_error hschema, ih,
            reduceCtorEq, exists_false, false_or]

end Schema

end ViewCompiler
