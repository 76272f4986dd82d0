import ViewCompiler.Proofs.Schema.Acceptance

/-!
# Checking accepts exactly the conforming values

`Decides` says of a schema that checking against it always comes to a verdict,
accepts exactly the values that conform and returns what they yield.  It is
proved for every schema that the constructors build, constructor by
constructor: each lemma of the later sections carries the statement from the
parts of a schema to the schema.
-/

namespace ViewCompiler

namespace Schema

structure Decides (schema : Schema) : Prop where
  comparable : ∀ value, schema.comparison? value = none
  accepts_iff : ∀ value path,
    (∃ accepted, schema.validate value path = .ok accepted) ↔
      Conforms schema value
  yields_iff : ∀ {value path accepted},
    schema.validate value path = .ok accepted →
      ∀ out, Yields schema value out ↔ out = accepted.value

/-- Only concrete values are left to the shape of a schema. -/
theorem decides_of_concrete {schema : Schema}
    (hcomparable : ∀ value, schema.comparison? value = none)
    (haccepts : ∀ value path,
      (∃ accepted, schema.conform value path = .ok accepted) ↔
        Fits schema value)
    (hbecomes : ∀ value path accepted,
      schema.conform value path = .ok accepted →
        ∀ out, Becomes schema value out ↔ out = accepted.value) :
    Decides schema := by
  refine ⟨hcomparable, ?_, ?_⟩
  · intro value path
    rcases value.isAbsent_or_runtime_or_concrete with
      habsent | ⟨source, rfl⟩ | hconcrete
    · rw [conforms_absent_iff habsent, ← accepts_iff_exists_ok,
        accepts_absent_iff habsent]
    · exact ⟨fun _ => .runtime, fun _ => ⟨_, rfl⟩⟩
    · rw [validate_concrete hconcrete, conforms_concrete_iff hconcrete]
      exact haccepts value path
  · intro value path accepted hok out
    rcases value.isAbsent_or_runtime_or_concrete with
      habsent | ⟨source, rfl⟩ | hconcrete
    · obtain ⟨_, rfl⟩ := (validate_absent_eq_ok_iff habsent).mp hok
      rw [yields_absent_iff habsent]
    · rw [yields_runtime_iff]
      rw [validate, Presence.judge, Verdict.unchanged, Except.ok.injEq] at hok
      subst accepted
      rfl
    · rw [yields_concrete_iff hconcrete]
      rw [validate_concrete hconcrete] at hok
      exact hbecomes value path accepted hok out

/-- A plain schema accepts values as they are or not at all. -/
theorem decides_of_isPlain {schema : Schema} (hplain : schema.isPlain)
    (hcomparable : ∀ value, schema.comparison? value = none)
    (hconform : ∀ value path accepted,
      schema.conform value path = .ok accepted ↔
        Fits schema value ∧ accepted = { value }) :
    Decides schema := by
  apply decides_of_concrete hcomparable
  · intro value path
    simp only [hconform]
    constructor
    · rintro ⟨_, hfits, _⟩
      exact hfits
    · intro hfits
      exact ⟨_, hfits, rfl⟩
  · intro value path accepted hok out
    obtain ⟨_, rfl⟩ := (hconform value path accepted).mp hok
    exact becomes_iff_of_isPlain hplain

/-! ## Items and properties -/

/-- What becomes of a value that the schema accepts; checking gives the same
value at every path. -/
def outcome (schema : Schema) (value : Value) : Value :=
  match schema.validate value "" with
  | .ok accepted => accepted.value
  | .error _ => .null

theorem Decides.yields_outcome {schema : Schema} (hdecides : Decides schema)
    {value : Value} (hconforms : Conforms schema value) :
    Yields schema value (schema.outcome value) := by
  obtain ⟨accepted, hok⟩ := (hdecides.accepts_iff value "").mpr hconforms
  rw [hdecides.yields_iff hok, outcome, hok]

theorem Decides.value_eq_outcome {schema : Schema} (hdecides : Decides schema)
    {value : Value} {path : String} {accepted : Accepted}
    (hok : schema.validate value path = .ok accepted) :
    accepted.value = schema.outcome value := by
  have hconforms := (hdecides.accepts_iff value path).mp ⟨accepted, hok⟩
  exact ((hdecides.yields_iff hok _).mp
    (hdecides.yields_outcome hconforms)).symm

theorem Decides.outcome_eq_of_yields {schema : Schema}
    (hdecides : Decides schema) {value result : Value}
    (hconforms : Conforms schema value)
    (hyields : Yields schema value result) :
    result = schema.outcome value := by
  obtain ⟨accepted, hok⟩ := (hdecides.accepts_iff value "").mpr hconforms
  rw [← hdecides.value_eq_outcome hok]
  exact (hdecides.yields_iff hok result).mp hyields

theorem Decides.accepts_iff_conforms {schema : Schema}
    (hdecides : Decides schema) {value : Value} :
    Accepts schema value ↔ Conforms schema value := by
  rw [accepts_iff_exists_ok "", hdecides.accepts_iff]

theorem Decides.validateItems_isOk_iff {schema : Schema}
    (hdecides : Decides schema) (path : String) (index : Nat)
    (items : List Value) :
    (∃ found, validateItems schema.validate path index items = .ok found) ↔
      ∀ item ∈ items, Conforms schema item := by
  simp only [validateItems_accepts_iff, hdecides.accepts_iff_conforms]

theorem Decides.validateItems_eq {schema : Schema}
    (hdecides : Decides schema) {path : String} {index : Nat}
    {items found : List Value} {dropped : List String}
    (hok : validateItems schema.validate path index items =
      .ok (found, dropped)) :
    found = items.map schema.outcome := by
  induction items generalizing index found dropped with
  | nil =>
      simp only [validateItems, Except.ok.injEq, Prod.mk.injEq] at hok
      simp [← hok.1]
  | cons item rest ih =>
      simp only [validateItems, Except.bind_eq_ok_iff] at hok
      obtain ⟨accepted, hitem, ⟨tail, tailDropped⟩, hrest, hresult⟩ := hok
      simp only [pure, Except.pure, Except.ok.injEq, Prod.mk.injEq] at hresult
      rw [← hresult.1, hdecides.value_eq_outcome hitem, ih hrest,
        List.map_cons]

theorem conformProperties_isOk_iff {properties : List (String × Schema)}
    (hdecides : ∀ property ∈ properties, Decides property.2)
    (entries : List (String × Value)) (path : String) :
    (∃ found, conformProperties properties entries path = .ok found) ↔
      ∀ property ∈ properties,
        Conforms property.2 (Value.entry entries property.1) := by
  rw [conformProperties_accepts_iff]
  exact forall₂_congr fun property hmem =>
    (hdecides property hmem).accepts_iff_conforms

theorem conformProperties_eq {properties : List (String × Schema)}
    (hdecides : ∀ property ∈ properties, Decides property.2)
    {entries kept : List (String × Value)} {path : String}
    {dropped : List String}
    (hok : conformProperties properties entries path = .ok (kept, dropped)) :
    kept = keptEntries properties entries fun property =>
      property.2.outcome (Value.entry entries property.1) := by
  induction properties generalizing kept dropped with
  | nil =>
      simp only [conformProperties, Except.ok.injEq, Prod.mk.injEq] at hok
      simp [← hok.1, keptEntries]
  | cons property rest ih =>
      obtain ⟨key, schema⟩ := property
      rw [List.forall_mem_cons] at hdecides
      obtain ⟨accepted, tail, tailDropped, hentry, hrest, rfl, _⟩ :=
        conformProperties_cons.mp hok
      rw [hdecides.1.value_eq_outcome hentry, ih hdecides.2 hrest]
      simp only [keptEntries, List.map_cons, List.filter_cons]

/-! ## Plain shapes -/

theorem comparison?_bounds_eq_none {least most : Option Bound}
    (hleast : least.bind Bound.other? = none)
    (hmost : most.bind Bound.other? = none) (number : Number) :
    Bound.comparison? least most number = none := by
  simp [Bound.comparison?, hleast, hmost]

theorem decides_string {presence : Presence} {limits : TextLimits}
    (hmin : limits.minLength.bind Bound.other? = none)
    (hmax : limits.maxLength.bind Bound.other? = none) :
    Decides (.string presence limits) := by
  apply decides_of_isPlain rfl
  · intro value
    cases value with
    | text text => exact comparison?_bounds_eq_none hmin hmax _
    | _ => rfl
  · intro value path accepted
    rw [fits_string_iff]
    cases value with
    | text text => simp [conform, TextLimits.check_eq_ok_iff]
    | _ => simp [conform, Verdict.mismatch]

theorem decides_number {presence : Presence} {limits : NumberLimits}
    (hmin : limits.minimum.bind Bound.other? = none)
    (hmax : limits.maximum.bind Bound.other? = none) :
    Decides (.number presence limits) := by
  apply decides_of_isPlain rfl
  · intro value
    cases value with
    | number number =>
        simp [comparison?, comparison?_bounds_eq_none hmin hmax]
    | _ => rfl
  · intro value path accepted
    rw [fits_number_iff]
    cases value with
    | number number =>
        by_cases hnan : number.isNan = true
        · simp [conform, hnan, Verdict.mismatch]
        · simp [conform, hnan, NumberLimits.check_eq_ok_iff]
    | _ => simp [conform, Verdict.mismatch]

private theorem decides_boolean (presence : Presence) :
    Decides (boolean presence) := by
  apply decides_of_isPlain rfl (fun _ => rfl)
  intro value path accepted
  rw [fits_boolean_iff]
  cases value with
  | bool b => simp [boolean, conform, conformBare, Verdict.unchanged, eq_comm]
  | _ => simp [boolean, conform, conformBare, Verdict.mismatch]

private theorem decides_function (presence : Presence) :
    Decides (function presence) := by
  apply decides_of_isPlain rfl (fun _ => rfl)
  intro value path accepted
  rw [fits_function_iff]
  cases value with
  | function =>
      simp [function, conform, conformBare, Verdict.unchanged, eq_comm]
  | _ => simp [function, conform, conformBare, Verdict.mismatch]

private theorem decides_any (presence : Presence) : Decides (any presence) := by
  apply decides_of_isPlain rfl (fun _ => rfl)
  intro value path accepted
  rw [and_iff_right (show Fits (any presence) value from .any)]
  simp [any, conform, conformBare, Verdict.unchanged, eq_comm]

private theorem decides_enum (presence : Presence) (values : List Value) :
    Decides (.enum presence values) := by
  apply decides_of_isPlain rfl (fun _ => rfl)
  intro value path accepted
  rw [fits_enum_iff]
  by_cases hmember : value.isMember values = true
  · simp [conform, hmember, Verdict.unchanged, eq_comm]
  · simp [conform, hmember, outsideValues, Verdict.violation]

private theorem decides_plainObject (presence : Presence) :
    Decides (.object presence none) := by
  apply decides_of_isPlain rfl (fun _ => rfl)
  intro value path accepted
  rw [fits_object_iff]
  cases value with
  | record entries => simp [conform, Verdict.unchanged, eq_comm]
  | _ => simp [conform, Verdict.mismatch]

/-! ## Arrays -/

theorem arrayComparison?_eq_none {size : SizeLimits}
    (hmin : size.minItems.bind Bound.other? = none)
    (hmax : size.maxItems.bind Bound.other? = none)
    {inItems : List Value → Option Comparison}
    (hitems : ∀ items, inItems items = none) (value : Value) :
    arrayComparison? size inItems value = none := by
  cases value with
  | list items =>
      simp [arrayComparison?, comparison?_bounds_eq_none hmin hmax, hitems]
  | tuple items =>
      simp [arrayComparison?, comparison?_bounds_eq_none hmin hmax, hitems]
  | _ => rfl

theorem itemsComparison?_eq_none {compare : Value → Option Comparison}
    (hcompare : ∀ value, compare value = none) (accepts : Value → Bool)
    (items : List Value) :
    itemsComparison? compare accepts items = none := by
  induction items with
  | nil => rfl
  | cons item rest ih => simp [itemsComparison?, hcompare, ih]

theorem decides_plainArray {presence : Presence} {size : SizeLimits}
    (hmin : size.minItems.bind Bound.other? = none)
    (hmax : size.maxItems.bind Bound.other? = none) :
    Decides (.array presence none size) := by
  apply decides_of_isPlain rfl
  · exact arrayComparison?_eq_none hmin hmax (fun _ => rfl)
  · intro value path accepted
    rw [fits_array_iff]
    cases value with
    | list values => simp [conform, validateArray_none_eq_ok_iff]
    | tuple values => simp [conform, validateArray_none_eq_ok_iff]
    | _ => simp [conform, Verdict.mismatch]

theorem map_eq_map_outcome {schema : Schema} (hdecides : Decides schema)
    {values : List Value} {result : Value → Value}
    (hconforms : ∀ value ∈ values, Conforms schema value)
    (hyields : ∀ value ∈ values, Yields schema value (result value)) :
    values.map result = values.map schema.outcome := by
  apply List.map_congr_left
  intro value hvalue
  exact hdecides.outcome_eq_of_yields (hconforms value hvalue)
    (hyields value hvalue)

private theorem decides_items {presence : Presence} {schema : Schema}
    {size : SizeLimits} (hdecides : Decides schema)
    (hmin : size.minItems.bind Bound.other? = none)
    (hmax : size.maxItems.bind Bound.other? = none) :
    Decides (.array presence (some schema) size) := by
  apply decides_of_concrete
  · intro value
    apply arrayComparison?_eq_none hmin hmax
    exact itemsComparison?_eq_none hdecides.comparable _
  · intro value path
    simp only [conform_items_eq_ok_iff, fits_array_iff]
    constructor
    · rintro ⟨accepted, values, found, dropped, hvalue, hsize, hitems⟩
      have hall := (hdecides.validateItems_isOk_iff path 0 values).mp
        ⟨_, hitems⟩
      refine ⟨values, ?_, hsize, by simpa using hall⟩
      rcases hvalue with ⟨rfl, _⟩ | ⟨rfl, _⟩
      · exact Or.inl rfl
      · exact Or.inr rfl
    · rintro ⟨values, hvalue, hsize, hitems⟩
      obtain ⟨⟨found, dropped⟩, hok⟩ :=
        (hdecides.validateItems_isOk_iff path 0 values).mpr (hitems schema rfl)
      rcases hvalue with rfl | rfl
      · exact ⟨_, values, found, dropped, Or.inl ⟨rfl, rfl⟩, hsize, hok⟩
      · exact ⟨_, values, found, dropped, Or.inr ⟨rfl, rfl⟩, hsize, hok⟩
  · intro value path accepted hok out
    obtain ⟨values, found, dropped, hvalue, _, hitems⟩ :=
      conform_items_eq_ok_iff.mp hok
    have hall := (hdecides.validateItems_isOk_iff path 0 values).mp
      ⟨_, hitems⟩
    have hfound := hdecides.validateItems_eq hitems
    have houtcome : ∀ item ∈ values, Yields schema item (schema.outcome item) :=
      fun item hitem => hdecides.yields_outcome (hall item hitem)
    rcases hvalue with ⟨rfl, rfl⟩ | ⟨rfl, rfl⟩
    · constructor
      · intro hbecomes
        cases hbecomes with
        | unchanged hplain => contradiction
        | list result hresult =>
            rw [map_eq_map_outcome hdecides hall hresult, hfound]
      · rintro rfl
        rw [hfound]
        exact .list _ houtcome
    · constructor
      · intro hbecomes
        cases hbecomes with
        | unchanged hplain => contradiction
        | tuple result hresult =>
            rw [map_eq_map_outcome hdecides hall hresult, hfound]
      · rintro rfl
        rw [hfound]
        exact .tuple _ houtcome

/-! ## Objects -/

private theorem decides_properties {presence : Presence}
    {properties : List (String × Schema)}
    (hdecides : ∀ property ∈ properties, Decides property.2) :
    Decides (.object presence (some properties)) := by
  apply decides_of_concrete
  · intro value
    cases value with
    | record entries =>
        exact (properties_checksInRow _).eq_none fun property hproperty =>
          (hdecides property hproperty).comparable _
    | _ => rfl
  · intro value path
    simp only [conform_properties_eq_ok_iff, fits_object_iff]
    constructor
    · rintro ⟨accepted, entries, kept, dropped, rfl, hproperties, _⟩
      have hall := (conformProperties_isOk_iff hdecides entries path).mp
        ⟨_, hproperties⟩
      exact ⟨entries, rfl, by simpa using hall⟩
    · rintro ⟨entries, rfl, hproperties⟩
      obtain ⟨⟨kept, dropped⟩, hok⟩ :=
        (conformProperties_isOk_iff hdecides entries path).mpr
          (hproperties properties rfl)
      exact ⟨_, entries, kept, dropped, rfl, hok, rfl⟩
  · intro value path accepted hok out
    obtain ⟨entries, kept, dropped, rfl, hproperties, rfl⟩ :=
      conform_properties_eq_ok_iff.mp hok
    have hall := (conformProperties_isOk_iff hdecides entries path).mp
      ⟨_, hproperties⟩
    have hkept := conformProperties_eq hdecides hproperties
    constructor
    · intro hbecomes
      cases hbecomes with
      | unchanged hplain => contradiction
      | object result hresult =>
          have hsame : ∀ property ∈ properties,
              result property =
                property.2.outcome (Value.entry entries property.1) := by
            intro property hproperty
            exact (hdecides property hproperty).outcome_eq_of_yields
              (hall property hproperty) (hresult property hproperty)
          rw [hkept, keptEntries, keptEntries]
          congr 2
          apply List.map_congr_left
          intro property hproperty
          rw [hsame property hproperty]
    · rintro rfl
      rw [hkept]
      apply Becomes.object
      intro property hproperty
      exact (hdecides property hproperty).yields_outcome
        (hall property hproperty)

/-! ## Unions -/

/-- Two ways to single out the first member with a property agree. -/
theorem firstSplit_unique {p : Schema → Prop} {before before' : List Schema}
    {schema schema' : Schema} {after after' : List Schema}
    (hsplit : before ++ schema :: after = before' ++ schema' :: after')
    (hbefore : ∀ earlier ∈ before, ¬p earlier)
    (hbefore' : ∀ earlier ∈ before', ¬p earlier)
    (hschema : p schema) (hschema' : p schema') : schema = schema' := by
  induction before generalizing before' with
  | nil =>
      cases before' with
      | nil => exact (List.cons.inj hsplit).1
      | cons head tail =>
          have hhead := (List.cons.inj hsplit).1
          exact absurd (hhead ▸ hschema) (hbefore' head (by simp))
  | cons first rest ih =>
      cases before' with
      | nil =>
          have hfirst := (List.cons.inj hsplit).1
          exact absurd (hfirst ▸ hschema') (hbefore first (by simp))
      | cons head tail =>
          rw [List.forall_mem_cons] at hbefore hbefore'
          exact ih (List.cons.inj hsplit).2 hbefore.2 hbefore'.2

private theorem decides_union {presence : Presence} {alternatives : List Schema}
    (hdecides : ∀ alternative ∈ alternatives, Decides alternative) :
    Decides (.union presence alternatives) := by
  apply decides_of_concrete
  · intro value
    exact alternativesComparison?_eq_none fun alternative halternative =>
      (hdecides alternative halternative).comparable value
  · intro value path
    simp only [conform_union_eq_ok_iff, conformAlternatives_isOk_iff,
      fits_union_iff]
    constructor
    · rintro ⟨alternative, hmem, haccepted⟩
      exact ⟨alternative, hmem,
        ((hdecides alternative hmem).accepts_iff value path).mp haccepted⟩
    · rintro ⟨alternative, hmem, hconforms⟩
      exact ⟨alternative, hmem,
        ((hdecides alternative hmem).accepts_iff value path).mpr hconforms⟩
  · intro value path accepted hok out
    obtain ⟨before, alternative, after, rfl, hbefore, haccepted⟩ :=
      conformAlternatives_eq_ok_iff.mp (conform_union_eq_ok_iff.mp hok)
    have halternative : Decides alternative := hdecides alternative (by simp)
    have hconforms := (halternative.accepts_iff value path).mp ⟨_, haccepted⟩
    -- An earlier alternative that the value conformed to would have accepted.
    have hrefuses : ∀ earlier ∈ before, ¬Conforms earlier value := by
      intro earlier hearlier hconforms
      have hdecided := hdecides earlier (by simp [hearlier])
      obtain ⟨other, hother⟩ := (hdecided.accepts_iff value path).mpr hconforms
      exact hbefore earlier hearlier other hother
    constructor
    · intro hbecomes
      generalize hsplit : before ++ alternative :: after = all at hbecomes
      cases hbecomes with
      | unchanged hplain => contradiction
      | union hbefore' hconforms' hyields =>
          have hsame := firstSplit_unique hsplit hrefuses hbefore'
            hconforms hconforms'
          subst hsame
          exact (halternative.yields_iff haccepted out).mp hyields
    · intro hout
      exact .union hrefuses hconforms
        ((halternative.yields_iff haccepted out).mpr hout)

/-! ## Schemas as they are built -/

private theorem eq_string_of_ofPattern {presence : Presence}
    {minLength maxLength : Option Bound} {pattern : Option String}
    {schema : Schema}
    (hschema : ofPattern presence minLength maxLength pattern = .ok schema) :
    ∃ compiled, schema = .string presence ⟨minLength, maxLength, compiled⟩ := by
  cases pattern with
  | none => exact ⟨none, (Except.ok.inj hschema).symm⟩
  | some source =>
      simp only [ofPattern] at hschema
      cases hread : Pattern.read source with
      | error fault => simp [hread] at hschema
      | ok compiled =>
          rw [hread] at hschema
          exact ⟨some compiled, (Except.ok.inj hschema).symm⟩

theorem eq_of_refusable_eq_ok {p : Prop} [Decidable p] {fault : SchemaError}
    {built schema : Schema}
    (hschema : (if p then .error fault else .ok built) = Except.ok schema) :
    schema = built := by
  by_cases hrefused : p
  · rw [if_pos hrefused] at hschema
    contradiction
  · rw [if_neg hrefused] at hschema
    exact (Except.ok.inj hschema).symm

theorem Built.decides {schema : Schema} (hbuilt : schema.Built) :
    Decides schema := by
  -- The constructors that may refuse are inverted first, so that each case is
  -- about one shape with the statement known for its parts.
  induction hbuilt with
  | string hmin hmax hschema =>
      obtain ⟨compiled, rfl⟩ := eq_string_of_ofPattern hschema
      exact decides_string hmin hmax
  | number hmin hmax => exact decides_number hmin hmax
  | boolean => exact decides_boolean _
  | function => exact decides_function _
  | @array presence items size hmin hmax hitems ih =>
      cases items with
      | none => exact decides_plainArray hmin hmax
      | some schema => exact decides_items (ih schema rfl) hmin hmax
  | @object presence properties hproperties ih =>
      cases properties with
      | none => exact decides_plainObject presence
      | some declared => exact decides_properties (ih declared rfl)
  | enum hschema =>
      obtain rfl := eq_of_refusable_eq_ok hschema
      exact decides_enum _ _
  | union halternatives hschema ih =>
      obtain rfl := eq_of_refusable_eq_ok hschema
      exact decides_union ih
  | any => exact decides_any _

/-- Checking a value against a schema comes to a verdict, and it accepts the
value exactly if the value conforms.  An accepted value becomes what it yields,
and nothing else. -/
theorem validate_accepts_exactly_conforming {schema : Schema}
    (hbuilt : schema.Built) (value : Value) (path : String) :
    schema.comparison? value = none ∧
      ((∃ accepted, schema.validate value path = .ok accepted) ↔
        Conforms schema value) ∧
      ∀ accepted, schema.validate value path = .ok accepted →
        ∀ out, Yields schema value out ↔ out = accepted.value := by
  have hdecides := hbuilt.decides
  refine ⟨hdecides.comparable value, hdecides.accepts_iff value path, ?_⟩
  intro accepted hok
  exact hdecides.yields_iff hok

/-- A tile has a name, up to three sizes that are whole numbers or left open,
and a theme. -/
def tile : Schema :=
  .object { required := true } (some
    [("name", .string { required := true } { minLength := some (.int 1) }),
      ("sizes", .array {}
        (some (.union {}
          [.number {} { minimum := some (.int 0), integer := true },
            .enum {} [.text "auto"]]))
        { maxItems := some (.int 3) }),
      ("theme", .enum { default := .text "light" }
        [.text "light", .text "dark"])])

theorem tile_built : tile.Built := by
  have hname : Built
      (.string { required := true } { minLength := some (.int 1) }) :=
    @Built.string _ _ none none _ rfl rfl rfl
  have hsize : Built (.union {}
      [.number {} { minimum := some (.int 0), integer := true },
        .enum {} [.text "auto"]]) := by
    refine @Built.union {}
      [.number {} { minimum := some (.int 0), integer := true },
        .enum {} [.text "auto"]] _ ?_ rfl
    rw [List.forall_mem_cons, List.forall_mem_singleton]
    exact ⟨.number rfl rfl, @Built.enum _ [.text "auto"] _ rfl⟩
  have htheme : Built (.enum { default := .text "light" }
      [.text "light", .text "dark"]) :=
    @Built.enum _ [.text "light", .text "dark"] _ rfl
  apply Built.object
  rintro _ ⟨⟩
  rw [List.forall_mem_cons, List.forall_mem_cons, List.forall_mem_singleton]
  refine ⟨hname, ?_, htheme⟩
  apply Built.array rfl rfl
  rintro _ ⟨⟩
  exact hsize

def sizedTile : Value :=
  .record
    [("name", .text "Tile"),
      ("sizes", .tuple [.number (.int 2), .text "auto"]),
      ("shade", .bool true)]

theorem tile_accepts_sizes :
    tile.Built ∧
      (∃ accepted, tile.validate sizedTile "value" = .ok accepted ∧
        Yields tile sizedTile accepted.value) ∧
      ¬Conforms tile (.record [("name", .text "")]) := by
  have hsized := validate_accepts_exactly_conforming tile_built sizedTile
    "value"
  have hunnamed := validate_accepts_exactly_conforming tile_built
    (.record [("name", .text "")]) "value"
  rw [Except.exists_eq_ok_iff_isOk] at hunnamed
  refine ⟨tile_built, ?_, ?_⟩
  · have hisOk : (tile.validate sizedTile "value").isOk = true := by
      decide +kernel
    obtain ⟨accepted, hok⟩ := Except.exists_eq_ok_iff_isOk.mpr hisOk
    exact ⟨accepted, hok, (hsized.2.2 accepted hok _).mpr rfl⟩
  · rw [← hunnamed.2.1]
    decide +kernel

end Schema

end ViewCompiler
