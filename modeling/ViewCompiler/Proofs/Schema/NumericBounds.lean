import ViewCompiler.Proofs.Entries
import ViewCompiler.Proofs.Schema.Conformance
import ViewCompiler.Usage

/-!
# Schemas whose bounds are numbers

Checking a value stops without a verdict only at a bound that is no number.
A schema without such a bound, in itself and in the schemas inside it, compares
every value; the schemas that are read off the use of parameters are of this
kind.
-/

namespace ViewCompiler

/-- Both bounds, where there are any, are numbers. -/
def Bound.areNumeric (least most : Option Bound) : Bool :=
  (least.bind Bound.other?).isNone && (most.bind Bound.other?).isNone

namespace Schema

mutual

/-- All bounds of the schema and of the schemas inside it are numbers. -/
def hasNumericBounds : Schema → Bool
  | bare _ _ => true
  | string _ limits => Bound.areNumeric limits.minLength limits.maxLength
  | number _ limits => Bound.areNumeric limits.minimum limits.maximum
  | array _ none size => Bound.areNumeric size.minItems size.maxItems
  | array _ (some items) size =>
    Bound.areNumeric size.minItems size.maxItems && hasNumericBounds items
  | object _ none => true
  | object _ (some properties) => propertiesHaveNumericBounds properties
  | enum _ _ => true
  | union _ alternatives => alternativesHaveNumericBounds alternatives

def propertiesHaveNumericBounds : List (String × Schema) → Bool
  | [] => true
  | (_, schema) :: rest =>
    hasNumericBounds schema && propertiesHaveNumericBounds rest

def alternativesHaveNumericBounds : List Schema → Bool
  | [] => true
  | schema :: rest =>
    hasNumericBounds schema && alternativesHaveNumericBounds rest

end

theorem areNumeric_iff {least most : Option Bound} :
    Bound.areNumeric least most = true ↔
      least.bind Bound.other? = none ∧ most.bind Bound.other? = none := by
  simp only [Bound.areNumeric, Bool.and_eq_true, Option.isNone_iff_eq_none]

theorem propertiesHaveNumericBounds_iff {properties : List (String × Schema)} :
    propertiesHaveNumericBounds properties = true ↔
      ∀ property ∈ properties, property.2.hasNumericBounds = true := by
  induction properties with
  | nil => simp [propertiesHaveNumericBounds]
  | cons property rest ih =>
      rw [propertiesHaveNumericBounds, Bool.and_eq_true, ih,
        List.forall_mem_cons]

/-! ## No comparison is left out -/

mutual

theorem comparison?_eq_none_of_numeric (schema : Schema)
    (hnumeric : schema.hasNumericBounds = true) (value : Value) :
    schema.comparison? value = none := by
  cases schema with
  | bare kind presence => rfl
  | string presence limits =>
      obtain ⟨hmin, hmax⟩ := areNumeric_iff.mp hnumeric
      exact (decides_string hmin hmax).comparable value
  | number presence limits =>
      obtain ⟨hmin, hmax⟩ := areNumeric_iff.mp hnumeric
      exact (decides_number hmin hmax).comparable value
  | array presence items size =>
      cases items with
      | none =>
          obtain ⟨hmin, hmax⟩ := areNumeric_iff.mp hnumeric
          exact (decides_plainArray hmin hmax).comparable value
      | some items =>
          rw [hasNumericBounds, Bool.and_eq_true, areNumeric_iff] at hnumeric
          obtain ⟨⟨hmin, hmax⟩, hitems⟩ := hnumeric
          apply arrayComparison?_eq_none hmin hmax
          exact itemsComparison?_eq_none
            (comparison?_eq_none_of_numeric items hitems) _
  | object presence properties =>
      cases properties with
      | none => rfl
      | some properties =>
          cases value with
          | record entries =>
              exact (properties_checksInRow _).eq_none fun property hmem =>
                properties_comparable_of_numeric properties hnumeric property
                  hmem _
          | _ => rfl
  | enum presence values => rfl
  | union presence alternatives =>
      exact alternativesComparison?_eq_none fun alternative hmem =>
        alternatives_comparable_of_numeric alternatives hnumeric alternative
          hmem value

theorem properties_comparable_of_numeric (properties : List (String × Schema))
    (hnumeric : propertiesHaveNumericBounds properties = true) :
    ∀ property ∈ properties, ∀ value, property.2.comparison? value = none := by
  match properties with
  | [] => simp
  | (key, schema) :: rest =>
      rw [propertiesHaveNumericBounds, Bool.and_eq_true] at hnumeric
      rw [List.forall_mem_cons]
      exact ⟨comparison?_eq_none_of_numeric schema hnumeric.1,
        properties_comparable_of_numeric rest hnumeric.2⟩

theorem alternatives_comparable_of_numeric (alternatives : List Schema)
    (hnumeric : alternativesHaveNumericBounds alternatives = true) :
    ∀ alternative ∈ alternatives, ∀ value,
      alternative.comparison? value = none := by
  match alternatives with
  | [] => simp
  | schema :: rest =>
      rw [alternativesHaveNumericBounds, Bool.and_eq_true] at hnumeric
      rw [List.forall_mem_cons]
      exact ⟨comparison?_eq_none_of_numeric schema hnumeric.1,
        alternatives_comparable_of_numeric rest hnumeric.2⟩

end

/-! ## Schemas that are read off the use of parameters -/

theorem hasNumericBounds_withPresence (presence : Presence) (schema : Schema) :
    (schema.withPresence presence).hasNumericBounds =
      schema.hasNumericBounds := by
  cases schema with
  | array _ items _ => cases items <;> rfl
  | object _ properties => cases properties <;> rfl
  | _ => rfl

private theorem hasNumericBounds_profile_schema (profile : UsageProfile)
    (default : Value) : (profile.schema default).hasNumericBounds = true := by
  unfold UsageProfile.schema optional require
  simp only [apply_ite hasNumericBounds, hasNumericBounds_withPresence, ite_self]
  cases profile.kind with
  | array => rfl
  | _ => rfl

theorem inferredSchemas_haveNumericBounds (definition : Definition) :
    propertiesHaveNumericBounds definition.inferredSchemas = true := by
  rw [propertiesHaveNumericBounds_iff]
  intro property hproperty
  obtain ⟨parameter, _, rfl⟩ :=
    List.mem_map.mp (Entries.mem_ofPairs hproperty)
  exact hasNumericBounds_profile_schema _ _

end Schema

end ViewCompiler
