import ViewCompiler.Proofs.Schema.Relocation
import Mathlib.Logic.Relation

/-!
# Accepted values, shape by shape

Whether a schema accepts a value does not depend on the path that the value is
checked at.  `Accepts` speaks of all paths at once; the lemmas about it say for
each shape what it takes, in terms of the parts of the schema.

`PartOf` relates a schema to the schemas right inside it.  Statements about all
schemas are proved by induction on parts.
-/

namespace ViewCompiler
namespace Schema

/-! ## Parts -/

/-- The schema stands right inside the other one. -/
inductive PartOf : Schema → Schema → Prop
  | items {presence : Presence} {schema : Schema} {size : SizeLimits} :
      PartOf schema (.array presence (some schema) size)
  | property {presence : Presence} {properties : List (String × Schema)}
      {property : String × Schema} (hmem : property ∈ properties) :
      PartOf property.2 (.object presence (some properties))
  | alternative {presence : Presence} {alternatives : List Schema}
      {alternative : Schema} (hmem : alternative ∈ alternatives) :
      PartOf alternative (.union presence alternatives)

theorem PartOf.sizeOf_lt {part schema : Schema} (hpart : PartOf part schema) :
    sizeOf part < sizeOf schema := by
  cases hpart with
  | items =>
      simp only [array.sizeOf_spec, Option.some.sizeOf_spec]
      omega
  | @property presence properties property hmem =>
      obtain ⟨key, schema⟩ := property
      have hproperty : sizeOf (key, schema) < sizeOf properties :=
        List.sizeOf_lt_of_mem hmem
      simp only [object.sizeOf_spec, Option.some.sizeOf_spec,
        Prod.mk.sizeOf_spec] at hproperty ⊢
      omega
  | @alternative presence alternatives alternative hmem =>
      have halternative : sizeOf part < sizeOf alternatives :=
        List.sizeOf_lt_of_mem hmem
      simp only [union.sizeOf_spec]
      omega

theorem induction_on_parts {motive : Schema → Prop}
    (hstep : ∀ schema, (∀ part, PartOf part schema → motive part) →
      motive schema)
    (schema : Schema) : motive schema := by
  induction hsize : sizeOf schema using Nat.strongRecOn generalizing schema with
  | ind size ih =>
      apply hstep
      intro part hpart
      exact ih (sizeOf part) (hsize ▸ hpart.sizeOf_lt) part rfl

/-- The property holds of the schema and of every schema inside it. -/
def Throughout (p : Schema → Prop) (schema : Schema) : Prop :=
  ∀ inner, Relation.ReflTransGen PartOf inner schema → p inner

theorem Throughout.self {p : Schema → Prop} {schema : Schema}
    (hall : Throughout p schema) : p schema :=
  hall schema .refl

theorem Throughout.part {p : Schema → Prop} {schema part : Schema}
    (hall : Throughout p schema) (hpart : PartOf part schema) :
    Throughout p part := by
  intro inner hinner
  exact hall inner (hinner.tail hpart)

section Throughout

variable {p : Schema → Prop}

theorem Throughout.of_parts {schema : Schema} (hself : p schema)
    (hparts : ∀ part, PartOf part schema → Throughout p part) :
    Throughout p schema := by
  intro inner hinner
  rcases hinner.cases_tail with heq | ⟨part, hpart, hlast⟩
  · rw [← heq]
    exact hself
  · exact hparts part hlast inner hpart

theorem Throughout.of_plain {schema : Schema} (hplain : schema.isPlain)
    (hself : p schema) : Throughout p schema := by
  apply of_parts hself
  intro part hpart
  cases hpart <;> contradiction

theorem Throughout.array {presence : Presence} {items : Schema}
    {size : SizeLimits} (hself : p (.array presence (some items) size))
    (hitems : Throughout p items) :
    Throughout p (.array presence (some items) size) := by
  apply of_parts hself
  rintro _ ⟨⟩
  exact hitems

theorem Throughout.object {presence : Presence}
    {properties : List (String × Schema)}
    (hself : p (.object presence (some properties)))
    (hproperties : ∀ property ∈ properties, Throughout p property.2) :
    Throughout p (.object presence (some properties)) := by
  apply of_parts hself
  intro part hpart
  cases hpart with
  | property hmem => exact hproperties _ hmem

theorem Throughout.union {presence : Presence} {alternatives : List Schema}
    (hself : p (.union presence alternatives))
    (halternatives : ∀ alternative ∈ alternatives, Throughout p alternative) :
    Throughout p (.union presence alternatives) := by
  apply of_parts hself
  intro part hpart
  cases hpart with
  | alternative hmem => exact halternatives _ hmem

end Throughout

theorem Throughout.imp {p q : Schema → Prop} {schema : Schema}
    (hall : Throughout p schema) (himp : ∀ inner, p inner → q inner) :
    Throughout q schema :=
  fun inner hinner => himp inner (hall inner hinner)

/-! ## Paths do not matter -/

/-- The schema accepts the value, whatever the path. -/
def Accepts (schema : Schema) (value : Value) : Prop :=
  ∀ path, ∃ accepted, schema.validate value path = .ok accepted

variable {schema : Schema} {value : Value} {path : String}
  {accepted : Accepted}

/-- The outcome at one path gives the outcome at every other path. -/
theorem exists_ok_at (hok : schema.validate value path = .ok accepted)
    (other : String) :
    ∃ moved, schema.validate value other = .ok moved ∧
      moved.value = accepted.value ∧
      ∃ rests : List String, accepted.dropped = rests.map (path ++ ·) ∧
        moved.dropped = rests.map (other ++ ·) := by
  have hhere := schema.validate_relocates path value ""
  have hthere := schema.validate_relocates other value ""
  rw [String.append_empty] at hhere hthere
  rcases hhere.cases with ⟨bare, found, hbare, hfound, hvalue, hdropped⟩ |
    ⟨_, _, _, herror, _⟩
  · obtain rfl : accepted = found := Except.ok.inj (hok.symm.trans hfound)
    rcases hthere.cases with ⟨same, moved, hsame, hmoved, hvalue', hdropped'⟩ |
      ⟨_, _, herror, _, _⟩
    · obtain rfl : bare = same := Except.ok.inj (hbare.symm.trans hsame)
      exact ⟨moved, hmoved, hvalue'.trans hvalue.symm, bare.dropped, hdropped,
        hdropped'⟩
    · rw [hbare] at herror
      contradiction
  · rw [hok] at herror
    contradiction

theorem accepts_of_ok (hok : schema.validate value path = .ok accepted) :
    Accepts schema value := by
  intro other
  obtain ⟨moved, hmoved, _⟩ := exists_ok_at hok other
  exact ⟨moved, hmoved⟩

theorem accepts_iff_exists_ok (path : String) :
    Accepts schema value ↔
      ∃ accepted, schema.validate value path = .ok accepted := by
  constructor
  · intro haccepts
    exact haccepts path
  · rintro ⟨accepted, hok⟩
    exact accepts_of_ok hok

theorem accepts_iff_isOk :
    Accepts schema value ↔ (schema.validate value "").isOk = true := by
  rw [accepts_iff_exists_ok ""]
  cases schema.validate value "" with
  | error failure => simp [Except.isOk, Except.toBool]
  | ok accepted => simp [Except.isOk, Except.toBool]

/-- Checking the value comes to a verdict, and the verdict is to accept it. -/
structure Passes (schema : Schema) (value : Value) : Prop where
  comparable : schema.comparison? value = none
  accepts : Accepts schema value

/-! ## Absent, render-time and concrete values -/

theorem validate_absent_eq_ok_iff (habsent : value.isAbsent) :
    schema.validate value path = .ok accepted ↔
      ¬schema.required ∧ accepted = { value := schema.default } := by
  rw [validate, Presence.judge_absent habsent]
  by_cases hrequired : schema.presence.required = true
  · simp [hrequired, Schema.required]
  · simp [hrequired, Schema.required, Schema.default, Verdict.unchanged,
      eq_comm]

theorem accepts_absent_iff (habsent : value.isAbsent) :
    Accepts schema value ↔ ¬schema.required := by
  simp only [accepts_iff_exists_ok "", validate_absent_eq_ok_iff habsent,
    exists_and_left, exists_eq, and_true]

theorem accepts_runtime (schema : Schema) (source : String) :
    Accepts schema (.runtime source) :=
  fun _ => ⟨_, rfl⟩

theorem accepts_concrete_iff (hconcrete : value.isConcrete) :
    Accepts schema value ↔
      ∃ accepted, schema.conform value "" = .ok accepted := by
  rw [accepts_iff_exists_ok "", validate_concrete hconcrete]

/-! ## Items and properties -/

theorem validateItems_accepts_iff (path : String) (index : Nat)
    (items : List Value) :
    (∃ found, validateItems schema.validate path index items = .ok found) ↔
      ∀ item ∈ items, Accepts schema item := by
  induction items generalizing index with
  | nil => simp [validateItems]
  | cons item rest ih =>
      rw [List.forall_mem_cons, ← ih (index + 1),
        accepts_iff_exists_ok (path ++ "[" ++ toString index ++ "]")]
      simp only [validateItems, Except.bind_eq_ok_iff]
      constructor
      · rintro ⟨found, accepted, hitem, tail, hrest, _⟩
        exact ⟨⟨accepted, hitem⟩, tail, hrest⟩
      · rintro ⟨⟨accepted, hitem⟩, tail, hrest⟩
        exact ⟨_, accepted, hitem, tail, hrest, rfl⟩

theorem conformProperties_accepts_iff (properties : List (String × Schema))
    (entries : List (String × Value)) (path : String) :
    (∃ found, conformProperties properties entries path = .ok found) ↔
      ∀ property ∈ properties,
        Accepts property.2 (Value.entry entries property.1) := by
  induction properties with
  | nil => simp [conformProperties]
  | cons property rest ih =>
      obtain ⟨key, schema⟩ := property
      rw [List.forall_mem_cons, ← ih,
        accepts_iff_exists_ok (path ++ "." ++ key)]
      constructor
      · rintro ⟨⟨kept, dropped⟩, hok⟩
        obtain ⟨accepted, tail, tailDropped, hentry, hrest, _⟩ :=
          conformProperties_cons.mp hok
        exact ⟨⟨accepted, hentry⟩, (tail, tailDropped), hrest⟩
      · rintro ⟨⟨accepted, hentry⟩, ⟨tail, tailDropped⟩, hrest⟩
        exact ⟨(_, _), conformProperties_cons.mpr
          ⟨accepted, tail, tailDropped, hentry, hrest, rfl, rfl⟩⟩

/-! ## Comparisons in items and properties -/

/-- Values are checked in a row, up to the first comparison that cannot be made
and to the first value that is refused. -/
structure ChecksInRow {α : Type} (schemaOf : α → Schema) (valueOf : α → Value)
    (row? : List α → Option Comparison) : Prop where
  nil : row? [] = none
  cons : ∀ first rest, row? (first :: rest) = none ↔
    (schemaOf first).comparison? (valueOf first) = none ∧
      (Accepts (schemaOf first) (valueOf first) → row? rest = none)

namespace ChecksInRow

variable {α : Type} {schemaOf : α → Schema} {valueOf : α → Value}
  {row? : List α → Option Comparison} {list : List α}
  (hrow : ChecksInRow schemaOf valueOf row?)

include hrow

theorem eq_none
    (hcomparable : ∀ a ∈ list, (schemaOf a).comparison? (valueOf a) = none) :
    row? list = none := by
  induction list with
  | nil => exact hrow.nil
  | cons first rest ih =>
      rw [List.forall_mem_cons] at hcomparable
      exact (hrow.cons first rest).mpr
        ⟨hcomparable.1, fun _ => ih hcomparable.2⟩

/-- A row without such a comparison has none before the first refused value,
nor at it. -/
theorem passes_before {before after : List α} {a : α}
    (hnone : row? (before ++ a :: after) = none)
    (hbefore : ∀ earlier ∈ before,
      Accepts (schemaOf earlier) (valueOf earlier)) :
    (∀ earlier ∈ before, Passes (schemaOf earlier) (valueOf earlier)) ∧
      (schemaOf a).comparison? (valueOf a) = none := by
  induction before with
  | nil =>
      rw [List.nil_append, hrow.cons] at hnone
      exact ⟨by simp, hnone.1⟩
  | cons first rest ih =>
      rw [List.cons_append, hrow.cons] at hnone
      rw [List.forall_mem_cons] at hbefore ⊢
      obtain ⟨hrest, ha⟩ := ih (hnone.2 hbefore.1) hbefore.2
      exact ⟨⟨⟨hnone.1, hbefore.1⟩, hrest⟩, ha⟩

theorem eq_none_iff
    (haccepts : ∀ a ∈ list, Accepts (schemaOf a) (valueOf a)) :
    row? list = none ↔
      ∀ a ∈ list, (schemaOf a).comparison? (valueOf a) = none := by
  refine ⟨fun hnone a ha => ?_, hrow.eq_none⟩
  obtain ⟨before, after, rfl⟩ := List.append_of_mem ha
  exact (hrow.passes_before hnone fun earlier hearlier =>
    haccepts earlier (List.mem_append_left _ hearlier)).2

end ChecksInRow

theorem items_checksInRow (schema : Schema) :
    ChecksInRow (fun _ => schema) (fun item => item)
      (itemsComparison? schema.comparison? fun item =>
        (schema.validate item "").isOk) where
  nil := rfl
  cons := by
    intro item rest
    cases hitem : schema.comparison? item with
    | some comparison => simp [itemsComparison?, hitem]
    | none => simp [itemsComparison?, hitem, accepts_iff_isOk]

theorem properties_checksInRow (entries : List (String × Value)) :
    ChecksInRow Prod.snd (fun property => Value.entry entries property.1)
      fun properties => propertiesComparison? properties entries where
  nil := rfl
  cons := by
    rintro ⟨key, schema⟩ rest
    unfold Value.entry
    cases hentry :
        schema.comparison? ((Entries.get? entries key).getD .missing) with
    | some comparison => simp [propertiesComparison?, hentry]
    | none => simp [propertiesComparison?, hentry, accepts_iff_isOk]

theorem alternativesComparison?_eq_none {alternatives : List Schema}
    {value : Value} (hcomparable : ∀ alternative ∈ alternatives,
      alternative.comparison? value = none) :
    alternativesComparison? alternatives value = none := by
  induction alternatives with
  | nil => rfl
  | cons schema rest ih =>
      rw [List.forall_mem_cons] at hcomparable
      simp [alternativesComparison?, hcomparable.1, ih hcomparable.2]

/-- A value is compared with something only if it is there and known. -/
theorem comparison?_of_not_isConcrete (hvalue : ¬value.isConcrete)
    (schema : Schema) : schema.comparison? value = none := by
  induction schema using induction_on_parts with
  | hstep schema ih =>
      cases schema with
      | union presence alternatives =>
          exact alternativesComparison?_eq_none fun alternative hmem =>
            ih alternative (.alternative hmem)
      | array presence items size =>
          cases value with
          | null => cases items <;> rfl
          | missing => cases items <;> rfl
          | runtime source => cases items <;> rfl
          | _ => exact absurd rfl hvalue
      | object presence properties =>
          cases value with
          | null => cases properties <;> rfl
          | missing => cases properties <;> rfl
          | runtime source => cases properties <;> rfl
          | _ => exact absurd rfl hvalue
      | _ =>
          cases value with
          | null => rfl
          | missing => rfl
          | runtime source => rfl
          | _ => exact absurd rfl hvalue

/-- An array of a permitted size is compared by its size, then item by item. -/
theorem comparison?_items_eq_none_iff {presence : Presence}
    {size : SizeLimits} {items : List Value}
    (hvalue : value = .list items ∨ value = .tuple items)
    (hmeets : size.Meets items.length) :
    comparison? (.array presence (some schema) size) value = none ↔
      Bound.comparison? size.minItems size.maxItems (.int items.length) = none ∧
        itemsComparison? schema.comparison?
          (fun item => (schema.validate item "").isOk) items = none := by
  rw [← SizeLimits.breach_eq_none_iff] at hmeets
  rcases hvalue with rfl | rfl
  · simp [comparison?, arrayComparison?, hmeets]
  · simp [comparison?, arrayComparison?, hmeets]

/-! ## Concrete values of each shape -/

section Shapes

variable {presence : Presence} (hconcrete : value.isConcrete)

include hconcrete

theorem accepts_string_iff {limits : TextLimits} :
    Accepts (.string presence limits) value ↔
      ∃ text, value = .text text ∧ limits.Meets text := by
  rw [accepts_concrete_iff hconcrete]
  cases value with
  | text text => simp [conform, TextLimits.check_eq_ok_iff]
  | _ => simp [conform, Verdict.mismatch]

theorem accepts_number_iff {limits : NumberLimits} :
    Accepts (.number presence limits) value ↔
      ∃ number, value = .number number ∧ ¬number.isNan ∧
        limits.Meets number := by
  rw [accepts_concrete_iff hconcrete]
  cases value with
  | number number =>
      by_cases hnan : number.isNan = true
      · simp [conform, hnan, Verdict.mismatch]
      · simp [conform, hnan, NumberLimits.check_eq_ok_iff]
  | _ => simp [conform, Verdict.mismatch]

theorem accepts_array_iff {items : Option Schema} {size : SizeLimits} :
    Accepts (.array presence items size) value ↔
      ∃ values, (value = .list values ∨ value = .tuple values) ∧
        size.Meets values.length ∧
        ∀ schema ∈ items, ∀ item ∈ values, Accepts schema item := by
  rw [accepts_concrete_iff hconcrete]
  cases items with
  | none =>
      cases value with
      | list values => simp [conform, validateArray_none_eq_ok_iff]
      | tuple values => simp [conform, validateArray_none_eq_ok_iff]
      | _ => simp [conform, Verdict.mismatch]
  | some schema =>
      simp only [conform_items_eq_ok_iff]
      constructor
      · rintro ⟨accepted, values, found, dropped, hvalue, hsize, hitems⟩
        have hall := (validateItems_accepts_iff "" 0 values).mp ⟨_, hitems⟩
        refine ⟨values, ?_, hsize, by simpa using hall⟩
        rcases hvalue with ⟨rfl, _⟩ | ⟨rfl, _⟩
        · exact Or.inl rfl
        · exact Or.inr rfl
      · rintro ⟨values, hvalue, hsize, hitems⟩
        obtain ⟨⟨found, dropped⟩, hok⟩ :=
          (validateItems_accepts_iff "" 0 values).mpr (hitems schema rfl)
        rcases hvalue with rfl | rfl
        · exact ⟨_, values, found, dropped, Or.inl ⟨rfl, rfl⟩, hsize, hok⟩
        · exact ⟨_, values, found, dropped, Or.inr ⟨rfl, rfl⟩, hsize, hok⟩

theorem accepts_object_iff {properties : Option (List (String × Schema))} :
    Accepts (.object presence properties) value ↔
      ∃ entries, value = .record entries ∧
        ∀ declared ∈ properties, ∀ property ∈ declared,
          Accepts property.2 (Value.entry entries property.1) := by
  rw [accepts_concrete_iff hconcrete]
  cases properties with
  | none =>
      cases value with
      | record entries => simp [conform, Verdict.unchanged]
      | _ => simp [conform, Verdict.mismatch]
  | some declared =>
      simp only [conform_properties_eq_ok_iff]
      constructor
      · rintro ⟨accepted, entries, kept, dropped, rfl, hproperties, _⟩
        have hall :=
          (conformProperties_accepts_iff declared entries "").mp ⟨_, hproperties⟩
        exact ⟨entries, rfl, by simpa using hall⟩
      · rintro ⟨entries, rfl, hproperties⟩
        obtain ⟨⟨kept, dropped⟩, hok⟩ :=
          (conformProperties_accepts_iff declared entries "").mpr
            (hproperties declared rfl)
        exact ⟨_, entries, kept, dropped, rfl, hok, rfl⟩

theorem accepts_enum_iff {values : List Value} :
    Accepts (.enum presence values) value ↔ value.isMember values := by
  rw [accepts_concrete_iff hconcrete]
  by_cases hmember : value.isMember values = true
  · simp [conform, hmember, Verdict.unchanged]
  · simp [conform, hmember, outsideValues, Verdict.violation]

theorem accepts_union_iff {alternatives : List Schema} :
    Accepts (.union presence alternatives) value ↔
      ∃ alternative ∈ alternatives, Accepts alternative value := by
  rw [accepts_concrete_iff hconcrete]
  simp only [conform_union_eq_ok_iff, conformAlternatives_isOk_iff,
    ← accepts_iff_exists_ok]

theorem accepts_any : Accepts (any presence) value := by
  rw [accepts_concrete_iff hconcrete]
  simp [any, conform, conformBare, Verdict.unchanged]

end Shapes

end Schema
end ViewCompiler
