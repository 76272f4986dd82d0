import ViewCompiler.Proofs.Schema.Results

/-!
# Checking a result again

A schema keeps a value if checking it succeeds, drops nothing and gives the same
value.  Without unions, and with defaults that their own schemas keep, a schema
keeps everything that comes out of its checks.

The argument does not depend on what it means for two values to be the same, as
long as arrays and objects with the same parts are the same.  It is used for
equality and for agreement up to the order of entries.
-/

namespace ViewCompiler

/-- The relation holds between equal values, and between arrays and objects
whose parts it holds between. -/
structure Value.Sameness (same : Value → Value → Prop) : Prop where
  refl : ∀ value, same value value
  list : ∀ {items others}, List.Forall₂ same items others →
    same (.list items) (.list others)
  tuple : ∀ {items others}, List.Forall₂ same items others →
    same (.tuple items) (.tuple others)
  record : ∀ {entries others},
    List.Forall₂ (fun entry other : String × Value =>
      entry.1 = other.1 ∧ same entry.2 other.2) entries others →
    same (.record entries) (.record others)

theorem Value.sameness_eq : Value.Sameness Eq where
  refl _ := rfl
  list hitems := by
    rw [List.forall₂_eq_eq_eq] at hitems
    rw [hitems]
  tuple hitems := by
    rw [List.forall₂_eq_eq_eq] at hitems
    rw [hitems]
  record hentries := by
    have heq := hentries.imp fun _ _ hentry => Prod.ext hentry.1 hentry.2
    rw [List.forall₂_eq_eq_eq] at heq
    rw [heq]

theorem Value.sameness_agrees : Value.Sameness Value.Agrees where
  refl := .refl
  list := .list
  tuple := .tuple
  record hentries := .record (rel_get?_of_forall₂ hentries)

namespace Schema

/-- Checking the value succeeds, drops nothing and leaves it the same. -/
structure Keeps (same : Value → Value → Prop) (schema : Schema)
    (value : Value) : Prop where
  comparable : schema.comparison? value = none
  kept : ∀ path, ∃ accepted, schema.validate value path = .ok accepted ∧
    same accepted.value value ∧ accepted.dropped = []

/-- There is no default, or the schema keeps it. -/
def KeepsDefault (same : Value → Value → Prop) (schema : Schema) : Prop :=
  schema.default = .null ∨ Keeps same schema schema.default

section Keeping

variable {same : Value → Value → Prop} {schema : Schema} {value : Value}
  {path : String} {accepted : Accepted}

theorem keeps_of_ok_at (hcomparable : schema.comparison? value = none)
    (hok : schema.validate value path = .ok accepted)
    (hsame : same accepted.value value) (hdropped : accepted.dropped = []) :
    Keeps same schema value := by
  refine ⟨hcomparable, ?_⟩
  intro other
  obtain ⟨moved, hmoved, hvalue, rests, hrests, hmovedDropped⟩ :=
    exists_ok_at hok other
  have hnone : rests = [] := by
    rw [hdropped] at hrests
    exact List.map_eq_nil_iff.mp hrests.symm
  refine ⟨moved, hmoved, hvalue ▸ hsame, ?_⟩
  rw [hmovedDropped, hnone, List.map_nil]

/-! ## Absent values -/

private theorem keeps_default (hsame : Value.Sameness same)
    (hdefault : KeepsDefault same schema) (hoptional : ¬schema.required) :
    Keeps same schema schema.default := by
  rcases hdefault with hnull | hkeeps
  · have hok : schema.validate .null "" = .ok { value := schema.default } :=
      (validate_absent_eq_ok_iff rfl).mpr ⟨hoptional, rfl⟩
    rw [hnull] at hok ⊢
    have hcomparable : schema.comparison? .null = none :=
      comparison?_of_not_isConcrete (by decide) schema
    exact keeps_of_ok_at hcomparable hok (hsame.refl .null) rfl
  · exact hkeeps

/-! ## Arrays -/

private theorem validateItems_of_keeps {items : List Value}
    (hkeeps : ∀ item ∈ items, Keeps same schema item) (path : String)
    (index : Nat) :
    ∃ again, validateItems schema.validate path index items = .ok (again, []) ∧
      List.Forall₂ same again items := by
  induction items generalizing index with
  | nil => exact ⟨[], rfl, .nil⟩
  | cons item rest ih =>
      rw [List.forall_mem_cons] at hkeeps
      obtain ⟨accepted, hitem, hsame, hdropped⟩ :=
        hkeeps.1.kept (path ++ "[" ++ toString index ++ "]")
      obtain ⟨tail, hrest, htail⟩ := ih hkeeps.2 (index + 1)
      refine ⟨accepted.value :: tail, ?_, .cons hsame htail⟩
      simp only [validateItems, hitem, hrest, bind, Except.bind, hdropped]
      rfl

private theorem keeps_array (hsame : Value.Sameness same) {presence : Presence}
    {size : SizeLimits} {rebuild : List Value → Value} {items : List Value}
    (hrebuild : Value.MakesArrays rebuild) (hmeets : size.Meets items.length)
    (hbounds : Bound.comparison? size.minItems size.maxItems
      (.int items.length) = none)
    (hkeeps : ∀ item ∈ items, Keeps same schema item) :
    Keeps same (.array presence (some schema) size) (rebuild items) := by
  have haccepts : ∀ item ∈ items, Accepts schema item := by
    intro item hitem
    obtain ⟨accepted, hok, _⟩ := (hkeeps item hitem).kept ""
    exact accepts_of_ok hok
  have hcomparable : comparison? (.array presence (some schema) size)
      (rebuild items) = none := by
    rw [comparison?_items_eq_none_iff (hrebuild.apply items) hmeets,
      (items_checksInRow _).eq_none_iff haccepts]
    exact ⟨hbounds, fun item hitem => (hkeeps item hitem).comparable⟩
  refine ⟨hcomparable, ?_⟩
  intro path
  obtain ⟨again, hagain, hitems⟩ := validateItems_of_keeps hkeeps path 0
  rcases hrebuild with rfl | rfl
  · refine ⟨{ value := .list again }, ?_, hsame.list hitems, rfl⟩
    rw [validate_concrete rfl, conform_items_eq_ok_iff]
    exact ⟨items, again, [], Or.inl ⟨rfl, rfl⟩, hmeets, hagain⟩
  · refine ⟨{ value := .tuple again }, ?_, hsame.tuple hitems, rfl⟩
    rw [validate_concrete rfl, conform_items_eq_ok_iff]
    exact ⟨items, again, [], Or.inr ⟨rfl, rfl⟩, hmeets, hagain⟩

/-! ## Objects -/

private theorem forall₂_keptEntries {properties : List (String × Schema)}
    {entries others : List (String × Value)}
    {result again : String × Schema → Value}
    (hkept : ∀ property ∈ properties,
      (Entries.has others property.1 || !(again property).isNull) =
        (Entries.has entries property.1 || !(result property).isNull))
    (hvalues : ∀ property ∈ properties,
      (Entries.has entries property.1 || !(result property).isNull) = true →
        same (again property) (result property)) :
    List.Forall₂ (fun entry other : String × Value =>
      entry.1 = other.1 ∧ same entry.2 other.2)
      (keptEntries properties others again)
      (keptEntries properties entries result) := by
  induction properties with
  | nil => exact .nil
  | cons property rest ih =>
      rw [List.forall_mem_cons] at hkept hvalues
      have hrest := ih hkept.2 hvalues.2
      simp only [keptEntries, List.map_cons, List.filter_cons, hkept.1]
      split
      next hproperty => exact .cons ⟨rfl, hvalues.1 hproperty⟩ hrest
      next => exact hrest

section Objects

variable {properties : List (String × Schema)}
  {entries : List (String × Value)} {result : String × Schema → Value}

/-- A property is found again as it was kept.  One that was not kept is missing
now and has nothing to stand in for it. -/
theorem keeps_entry_again (hnames : (Entries.keys properties).Nodup)
    {property : String × Schema} (hmem : property ∈ properties)
    (hkeeps : Keeps same property.2 (result property))
    (hdefault : Entries.has entries property.1 = false →
      ¬property.2.required ∧ result property = property.2.default)
    (path : String) :
    property.2.comparison?
        (Value.entry (keptEntries properties entries result) property.1) =
      none ∧
    ∃ accepted,
      property.2.validate
          (Value.entry (keptEntries properties entries result) property.1)
          path = .ok accepted ∧
        accepted.dropped = [] ∧
        (if Entries.has entries property.1 || !(result property).isNull then
          same accepted.value (result property)
        else accepted.value.isNull = true) := by
  rw [Value.entry, get?_keptEntries hnames hmem]
  split
  next hkept =>
      obtain ⟨accepted, hok, hsame, hdropped⟩ := hkeeps.kept path
      exact ⟨hkeeps.comparable, accepted, hok, hdropped, hsame⟩
  next hkept =>
      simp only [Bool.or_eq_true, Bool.not_eq_true', not_or,
        Bool.not_eq_true, Bool.not_eq_false] at hkept
      obtain ⟨hoptional, hresult⟩ := hdefault hkept.1
      refine ⟨comparison?_of_not_isConcrete (by decide) _,
        { value := _ }, (validate_absent_eq_ok_iff rfl).mpr ⟨hoptional, rfl⟩, rfl, ?_⟩
      rw [← hresult]
      exact hkept.2

private theorem keeps_object (hsame : Value.Sameness same)
    (hnames : (Entries.keys properties).Nodup)
    (hkeeps : ∀ property ∈ properties, Keeps same property.2 (result property))
    (hdefault : ∀ property ∈ properties,
      Entries.has entries property.1 = false →
        ¬property.2.required ∧ result property = property.2.default)
    (presence : Presence) :
    Keeps same (.object presence (some properties))
      (.record (keptEntries properties entries result)) := by
  have hagain := fun path property hmem =>
    keeps_entry_again hnames hmem (hkeeps property hmem)
      (hdefault property hmem) path
  have haccepts : ∀ property ∈ properties, Accepts property.2
      (Value.entry (keptEntries properties entries result) property.1) := by
    intro property hmem path
    obtain ⟨_, accepted, hok, _⟩ := hagain path property hmem
    exact ⟨accepted, hok⟩
  constructor
  · exact ((properties_checksInRow _).eq_none_iff haccepts).mpr
      fun property hmem => (hagain "" property hmem).1
  · intro path
    obtain ⟨⟨kept, dropped⟩, hok⟩ :=
      (conformProperties_accepts_iff properties _ path).mpr haccepts
    obtain ⟨second, hsecond, rfl, rfl⟩ := exists_results_of_ok hok
    have hfound : ∀ property ∈ properties, (second property).dropped = [] ∧
        if Entries.has entries property.1 || !(result property).isNull then
          same (second property).value (result property)
        else (second property).value.isNull = true := by
      intro property hmem
      obtain ⟨_, accepted, haccepted, hfacts⟩ := hagain _ property hmem
      rw [hsecond property hmem, Except.ok.injEq] at haccepted
      exact haccepted ▸ hfacts
    have hdropped :
        (properties.flatMap fun property => (second property).dropped) = [] :=
      List.flatMap_eq_nil_iff.mpr fun property hmem => (hfound property hmem).1
    have hpass : validate (.object presence (some properties))
        (.record (keptEntries properties entries result)) path =
          .ok { value := .record (keptEntries properties
            (keptEntries properties entries result)
              fun property => (second property).value) } := by
      rw [validate_concrete rfl, conform_properties_eq_ok_iff]
      refine ⟨_, _, _, rfl, hok, ?_⟩
      rw [hdropped, undeclared_keptEntries]
      rfl
    refine ⟨_, hpass, hsame.record (forall₂_keptEntries ?_ ?_), rfl⟩
    · intro property hmem
      have hvalue := (hfound property hmem).2
      rw [Entries.has, get?_keptEntries hnames hmem]
      split
      next hkept => simp [hkept]
      next hkept =>
          rw [if_neg hkept] at hvalue
          simp only [Bool.not_eq_true] at hkept
          simp [hkept, hvalue]
    · intro property hmem hkept
      have hvalue := (hfound property hmem).2
      rwa [if_pos hkept] at hvalue

end Objects

/-! ## All schemas -/

/-- What comes out of a check is kept by another one. -/
theorem keeps_of_ok (hsame : Value.Sameness same)
    (hunion : Throughout (fun inner => inner.kind ≠ .union) schema)
    (hnames : Throughout DistinctNames schema)
    (hdefaults : Throughout (KeepsDefault same) schema)
    (hcomparable : schema.comparison? value = none)
    (hok : schema.validate value path = .ok accepted) :
    Keeps same schema accepted.value := by
  induction schema using induction_on_parts
    generalizing value path accepted with
  | hstep schema ih =>
      cases checked_of_ok hok with
      | absent _ hoptional =>
          exact keeps_default hsame hdefaults.self hoptional
      | unchanged => exact keeps_of_ok_at hcomparable hok (hsame.refl _) rfl
      | @array presence items size rebuild values _ result hrebuild hmeets
          hresult =>
          have hpart : PartOf items (.array presence (some items) size) :=
            .items
          have haccepts : ∀ item ∈ values, Accepts items item := by
            intro item hitem
            obtain ⟨i, hi⟩ := List.mem_iff_getElem?.mp hitem
            exact accepts_of_ok (hresult i item hi)
          obtain ⟨hbounds, hitems⟩ :=
            (comparison?_items_eq_none_iff (hrebuild.apply values) hmeets).mp
              hcomparable
          rw [(items_checksInRow _).eq_none_iff haccepts] at hitems
          -- There are as many results as items, so the limits are kept again.
          apply keeps_array hsame hrebuild
          · rwa [List.length_map, List.length_range]
          · rwa [List.length_map, List.length_range]
          · simp only [List.forall_mem_map, List.mem_range]
            intro i hi
            have hitem : values[i]? = some values[i] :=
              List.getElem?_eq_getElem hi
            exact ih items hpart (hunion.part hpart) (hnames.part hpart)
              (hdefaults.part hpart) (hitems _ (List.getElem_mem hi))
              (hresult i _ hitem)
      | @object presence properties entries _ result hresult =>
          have hpart : ∀ property ∈ properties, PartOf property.2
              (.object presence (some properties)) :=
            fun _ hmem => .property hmem
          have haccepts : ∀ property ∈ properties,
              Accepts property.2 (Value.entry entries property.1) :=
            fun property hmem => accepts_of_ok (hresult property hmem)
          have hentries :=
            ((properties_checksInRow _).eq_none_iff haccepts).mp hcomparable
          apply keeps_object hsame hnames.self
          · intro property hmem
            have hinner := hpart property hmem
            exact ih property.2 hinner (hunion.part hinner)
              (hnames.part hinner) (hdefaults.part hinner)
              (hentries property hmem) (hresult property hmem)
          · intro property hmem hmissing
            obtain ⟨hoptional, hdefault⟩ :=
              result_of_not_given (hresult property hmem) hmissing
            exact ⟨hoptional, congrArg Accepted.value hdefault⟩
      | union => exact absurd rfl hunion.self

end Keeping

/-- Without unions, checking the result of a check gives the same result and
drops nothing, if every default is null or is kept by its own schema.  Defaults
and results are the same up to the order of entries, and if all defaults are
kept as they are, so are all results. -/
theorem validation_idempotent {schema : Schema} {value : Value} {path : String}
    {accepted : Accepted}
    (hunion : Throughout (fun inner => inner.kind ≠ .union) schema)
    (hnames : Throughout DistinctNames schema)
    (hcomparable : schema.comparison? value = none)
    (hok : schema.validate value path = .ok accepted) :
    (Throughout (KeepsDefault Value.Agrees) schema →
      schema.comparison? accepted.value = none ∧
        ∃ again, schema.validate accepted.value path = .ok again ∧
          again.value.Agrees accepted.value ∧ again.dropped = []) ∧
    (Throughout (KeepsDefault Eq) schema →
      schema.comparison? accepted.value = none ∧
        schema.validate accepted.value path =
          .ok { value := accepted.value }) := by
  constructor
  · intro hdefaults
    have hkeeps := keeps_of_ok Value.sameness_agrees hunion hnames hdefaults
      hcomparable hok
    exact ⟨hkeeps.comparable, hkeeps.kept path⟩
  · intro hdefaults
    have hkeeps := keeps_of_ok Value.sameness_eq hunion hnames hdefaults
      hcomparable hok
    obtain ⟨⟨again, dropped⟩, hagain, rfl, rfl⟩ := hkeeps.kept path
    exact ⟨hkeeps.comparable, hagain⟩

def row : Schema :=
  .object {} (some
    [("cell", .string { required := true } {}), ("note", .string {} {})])

/-- A table has a title, if only the default one, and rows. -/
def table : Schema :=
  .object {} (some
    [("title", .string { default := .text "Untitled" } {}),
      ("rows", .array {} (some row) {})])

/-- The table has no title of its own and an entry that is not declared. -/
def looseTable : Value :=
  .record
    [("border", .bool true),
      ("rows", .tuple [.record [("note", .null), ("cell", .text "A1")]])]

def tidyTable : Value :=
  .record
    [("title", .text "Untitled"),
      ("rows", .tuple [.record [("cell", .text "A1"), ("note", .null)]])]

theorem table_keepsDefaults :
    Throughout (fun inner => (inner.kind ≠ .union ∧ DistinctNames inner) ∧
      KeepsDefault Eq inner) table := by
  have htitle : KeepsDefault Eq
      (.string { default := .text "Untitled" } {}) :=
    Or.inr ⟨rfl, fun _ => ⟨_, rfl, rfl, rfl⟩⟩
  have hrowNames : DistinctNames row := by
    simp [DistinctNames, row, Entries.keys]
  have htableNames : DistinctNames table := by
    simp [DistinctNames, table, Entries.keys]
  refine .object ⟨⟨by decide, htableNames⟩, Or.inl rfl⟩ ?_
  rw [List.forall_mem_cons, List.forall_mem_singleton]
  refine ⟨.of_plain rfl ⟨⟨by decide, trivial⟩, htitle⟩,
    .array ⟨⟨by decide, trivial⟩, Or.inl rfl⟩ ?_⟩
  refine .object ⟨⟨by decide, hrowNames⟩, Or.inl rfl⟩ ?_
  rw [List.forall_mem_cons, List.forall_mem_singleton]
  exact ⟨.of_plain rfl ⟨⟨by decide, trivial⟩, Or.inl rfl⟩,
    .of_plain rfl ⟨⟨by decide, trivial⟩, Or.inl rfl⟩⟩

theorem looseTable_tidied_once :
    table.validate looseTable "table" =
        .ok { value := tidyTable, dropped := ["table.border"] } ∧
      table.validate tidyTable "table" = .ok { value := tidyTable } := by
  have hok : table.validate looseTable "table" =
      .ok { value := tidyTable, dropped := ["table.border"] } := rfl
  have hidempotent := validation_idempotent
    (table_keepsDefaults.imp fun _ hinner => hinner.1.1)
    (table_keepsDefaults.imp fun _ hinner => hinner.1.2) rfl hok
  exact ⟨hok, (hidempotent.2
    (table_keepsDefaults.imp fun _ hinner => hinner.2)).2⟩

end Schema

end ViewCompiler
