import ViewCompiler.Proofs.Entries
import ViewCompiler.Proofs.Schema.Acceptance
import ViewCompiler.Proofs.Schema.PlainCheck
import ViewCompiler.Proofs.Value

/-!
# What comes out of a successful check

The items of an accepted array are the results of its items.  The entries of an
accepted object are the results of its declared properties, in the order of
declaration, without those that were not given and have nothing to stand in for
them.  Names are declared once, so what is found under a name afterwards is the
result of the property of that name.

`Checked` lists the ways in which a check succeeds, each with its result in
terms of the results of the parts.
-/

namespace ViewCompiler
namespace Schema

/-- No name is declared twice by the schema itself. -/
def DistinctNames : Schema → Prop
  | .object _ (some properties) => (Entries.keys properties).Nodup
  | _ => True

/-- The items and the dropped paths, from the results of all items. -/
theorem exists_item_results_of_ok {schema : Schema} {path : String}
    {index : Nat} {items found : List Value} {dropped : List String}
    (hok : validateItems schema.validate path index items =
      .ok (found, dropped)) :
    ∃ result : Nat → Accepted,
      (∀ i item, items[i]? = some item →
        schema.validate item
            (path ++ "[" ++ toString (index + i) ++ "]") = .ok (result i)) ∧
      (found = (List.range items.length).map fun i => (result i).value) ∧
      dropped = (List.range items.length).flatMap fun i =>
        (result i).dropped := by
  induction items generalizing index found dropped with
  | nil =>
      simp only [validateItems, Except.ok.injEq, Prod.mk.injEq] at hok
      exact ⟨fun _ => { value := .null }, by simp, hok.1.symm, hok.2.symm⟩
  | cons item rest ih =>
      simp only [validateItems, Except.bind_eq_ok_iff] at hok
      obtain ⟨accepted, hitem, ⟨tail, tailDropped⟩, hrest, hresult⟩ := hok
      simp only [pure, Except.pure, Except.ok.injEq, Prod.mk.injEq] at hresult
      obtain ⟨result, hresults, rfl, rfl⟩ := ih hrest
      refine ⟨fun i => i.casesOn accepted result, ?_, ?_, ?_⟩
      · intro i other hother
        cases i with
        | zero =>
            obtain rfl : item = other := Option.some.inj hother
            exact hitem
        | succ i =>
            rw [← hresults i other hother, Nat.add_right_comm, Nat.add_assoc]
      · rw [← hresult.1, List.length_cons, List.range_succ_eq_map,
          List.map_cons, List.map_map]
        rfl
      · rw [← hresult.2, List.length_cons, List.range_succ_eq_map,
          List.flatMap_cons, List.flatMap_map]
        rfl

/-- The entries and the dropped paths, from the results of all properties. -/
theorem conformProperties_eq_of_results {properties : List (String × Schema)}
    {entries : List (String × Value)} {path : String}
    {result : String × Schema → Accepted}
    (hresult : ∀ property ∈ properties,
      property.2.validate (Value.entry entries property.1)
        (path ++ "." ++ property.1) = .ok (result property)) :
    conformProperties properties entries path =
      .ok (keptEntries properties entries fun property =>
          (result property).value,
        properties.flatMap fun property => (result property).dropped) := by
  induction properties with
  | nil => simp [conformProperties, keptEntries]
  | cons property rest ih =>
      obtain ⟨key, schema⟩ := property
      rw [List.forall_mem_cons] at hresult
      refine conformProperties_cons.mpr
        ⟨_, _, _, hresult.1, ih hresult.2, ?_, ?_⟩
      · simp only [keptEntries, List.map_cons, List.filter_cons]
      · simp only [List.flatMap_cons]

theorem exists_results_of_ok {properties : List (String × Schema)}
    {entries : List (String × Value)} {path : String}
    {kept : List (String × Value)} {dropped : List String}
    (hok : conformProperties properties entries path = .ok (kept, dropped)) :
    ∃ result : String × Schema → Accepted,
      (∀ property ∈ properties,
        property.2.validate (Value.entry entries property.1)
          (path ++ "." ++ property.1) = .ok (result property)) ∧
      (kept = keptEntries properties entries fun property =>
        (result property).value) ∧
      dropped = properties.flatMap fun property =>
        (result property).dropped := by
  have haccepts := (conformProperties_accepts_iff properties entries path).mp
    ⟨_, hok⟩
  have hexists : ∀ property : String × Schema, ∃ accepted,
      property ∈ properties →
        property.2.validate (Value.entry entries property.1)
          (path ++ "." ++ property.1) = .ok accepted := by
    intro property
    by_cases hmem : property ∈ properties
    · obtain ⟨accepted, hentry⟩ :=
        haccepts property hmem (path ++ "." ++ property.1)
      exact ⟨accepted, fun _ => hentry⟩
    · exact ⟨{ value := .null }, fun hmem' => absurd hmem' hmem⟩
  choose result hresult using hexists
  have hsame := conformProperties_eq_of_results hresult
  rw [hok, Except.ok.injEq, Prod.mk.injEq] at hsame
  exact ⟨result, hresult, hsame⟩

theorem mem_undeclared_iff {properties : List (String × Schema)}
    {entries : List (String × Value)} {key : String} :
    (key ∈ (Entries.keys entries).filter fun key =>
      !Entries.has properties key) ↔
      key ∈ Entries.keys entries ∧ key ∉ Entries.keys properties := by
  rw [List.mem_filter, Bool.not_eq_true', ← Bool.not_eq_true,
    Entries.has_iff_mem_keys]

section Kept

variable {properties : List (String × Schema)}
  {entries : List (String × Value)} {result : String × Schema → Value}

theorem mem_keptEntries_iff {key : String} {value : Value} :
    (key, value) ∈ keptEntries properties entries result ↔
      ∃ property ∈ properties, property.1 = key ∧ result property = value ∧
        (Entries.has entries key = true ∨ value.isNull = false) := by
  simp only [keptEntries, List.mem_filter, List.mem_map, Prod.mk.injEq,
    Bool.or_eq_true, Bool.not_eq_true']
  constructor
  · rintro ⟨⟨property, hmem, hkey, hvalue⟩, hkept⟩
    exact ⟨property, hmem, hkey, hvalue, hkept⟩
  · rintro ⟨property, hmem, hkey, hvalue, hkept⟩
    exact ⟨⟨property, hmem, hkey, hvalue⟩, hkept⟩

theorem keys_keptEntries_sublist :
    (Entries.keys (keptEntries properties entries result)).Sublist
      (Entries.keys properties) := by
  have hfilter := (List.filter_sublist (l := properties.map fun property =>
    (property.1, result property)) (p := fun entry =>
      Entries.has entries entry.1 || !entry.2.isNull)).map Prod.fst
  simpa only [Entries.keys, keptEntries, List.map_map, Function.comp_def]
    using hfilter

theorem undeclared_keptEntries :
    ((Entries.keys (keptEntries properties entries result)).filter fun key =>
      !Entries.has properties key) = [] := by
  rw [List.eq_nil_iff_forall_not_mem]
  intro key hkey
  obtain ⟨hkept, hundeclared⟩ := mem_undeclared_iff.mp hkey
  exact hundeclared (keys_keptEntries_sublist.subset hkept)

variable (hnames : (Entries.keys properties).Nodup)

include hnames

theorem eq_of_same_name {property other : String × Schema}
    (hproperty : property ∈ properties) (hother : other ∈ properties)
    (hname : property.1 = other.1) : property = other := by
  have hfirst := Entries.get?_eq_some_of_mem hnames hproperty
  have hsecond := Entries.get?_eq_some_of_mem hnames hother
  rw [hname, hsecond, Option.some.injEq] at hfirst
  exact Prod.ext hname hfirst.symm

theorem get?_keptEntries {property : String × Schema}
    (hmem : property ∈ properties) :
    Entries.get? (keptEntries properties entries result) property.1 =
      if Entries.has entries property.1 || !(result property).isNull then
        some (result property)
      else none := by
  have hkeys : (Entries.keys (keptEntries properties entries result)).Nodup :=
    keys_keptEntries_sublist.nodup hnames
  split
  next hkept =>
      apply Entries.get?_eq_some_of_mem hkeys
      rw [mem_keptEntries_iff]
      rw [Bool.or_eq_true, Bool.not_eq_true'] at hkept
      exact ⟨property, hmem, rfl, rfl, hkept⟩
  next hkept =>
      cases hget : Entries.get? (keptEntries properties entries result)
          property.1 with
      | none => rfl
      | some value =>
          obtain ⟨other, hother, hname, rfl, hkept'⟩ :=
            mem_keptEntries_iff.mp (Entries.mem_of_get?_eq_some hget)
          obtain rfl := eq_of_same_name hnames hother hmem hname
          rw [Bool.or_eq_true, Bool.not_eq_true'] at hkept
          exact absurd hkept' hkept

theorem get?_keptEntries_of_given {property : String × Schema}
    (hmem : property ∈ properties)
    (hgiven : Entries.has entries property.1 = true) :
    Entries.get? (keptEntries properties entries result) property.1 =
      some (result property) := by
  rw [get?_keptEntries hnames hmem, hgiven, Bool.true_or, if_pos rfl]

theorem mem_keys_keptEntries_of_given {key : String}
    (hdeclared : key ∈ Entries.keys properties)
    (hgiven : key ∈ Entries.keys entries) :
    key ∈ Entries.keys (keptEntries properties entries result) := by
  obtain ⟨property, hmem, rfl⟩ := List.mem_map.mp hdeclared
  rw [← Entries.has_iff_mem_keys] at hgiven ⊢
  exact Entries.has_of_get?_eq_some
    (get?_keptEntries_of_given hnames hmem hgiven)

end Kept

theorem result_of_given {schema : Schema} {entries : List (String × Value)}
    {key path : String} {item : Value} {accepted : Accepted}
    (hok : schema.validate (Value.entry entries key) path = .ok accepted)
    (hgiven : Entries.get? entries key = some item) :
    schema.validate item path = .ok accepted := by
  rwa [Value.entry, hgiven, Option.getD_some] at hok

/-- A declared property that was not given comes to its default. -/
theorem result_of_not_given {schema : Schema} {entries : List (String × Value)}
    {key path : String} {accepted : Accepted}
    (hok : schema.validate (Value.entry entries key) path = .ok accepted)
    (hmissing : Entries.has entries key = false) :
    ¬schema.required ∧ accepted = { value := schema.default } := by
  rw [Entries.has, Option.isSome_eq_false_iff,
    Option.isNone_iff_eq_none] at hmissing
  rw [Value.entry, hmissing, Option.getD_none] at hok
  exact (validate_absent_eq_ok_iff rfl).mp hok

/-! ## Ways to succeed -/

/-- The ways in which a check succeeds, each with what it comes to. -/
inductive Checked : Schema → Value → String → Accepted → Prop
  | absent {schema : Schema} {value : Value} {path : String}
      (habsent : value.isAbsent) (hoptional : ¬schema.required) :
      Checked schema value path { value := schema.default }
  | unchanged {schema : Schema} {value : Value} {path : String}
      (hpresent : ¬value.isAbsent) : Checked schema value path { value }
  | array {presence : Presence} {schema : Schema} {size : SizeLimits}
      {rebuild : List Value → Value} {items : List Value} {path : String}
      {result : Nat → Accepted} (hrebuild : Value.MakesArrays rebuild)
      (hmeets : size.Meets items.length)
      (hresult : ∀ i item, items[i]? = some item →
        schema.validate item (path ++ "[" ++ toString i ++ "]") =
          .ok (result i)) :
      Checked (.array presence (some schema) size) (rebuild items) path
        { value := rebuild
            ((List.range items.length).map fun i => (result i).value)
          dropped := (List.range items.length).flatMap fun i =>
            (result i).dropped }
  | object {presence : Presence} {properties : List (String × Schema)}
      {entries : List (String × Value)} {path : String}
      {result : String × Schema → Accepted}
      (hresult : ∀ property ∈ properties,
        property.2.validate (Value.entry entries property.1)
          (path ++ "." ++ property.1) = .ok (result property)) :
      Checked (.object presence (some properties)) (.record entries) path
        { value := .record (keptEntries properties entries fun property =>
            (result property).value)
          dropped := (properties.flatMap fun property =>
              (result property).dropped) ++
            ((Entries.keys entries).filter fun key =>
              !Entries.has properties key).map (path ++ "." ++ ·) }
  | union {presence : Presence} {before after : List Schema}
      {alternative : Schema} {value : Value} {path : String}
      {accepted : Accepted}
      (hbefore : ∀ earlier ∈ before, ¬Accepts earlier value)
      (hok : alternative.validate value path = .ok accepted) :
      Checked (.union presence (before ++ alternative :: after)) value path
        accepted

theorem checked_of_conform_eq_ok {schema : Schema} {value : Value}
    {path : String} {accepted : Accepted} (hpresent : ¬value.isAbsent)
    (hok : schema.conform value path = .ok accepted) :
    Checked schema value path accepted := by
  by_cases hplain : schema.isPlain = true
  · obtain rfl := (conform_plain hplain hpresent path).eq_unchanged hok
    exact .unchanged hpresent
  · cases schema with
    | array presence items size =>
        cases items with
        | none => exact absurd rfl hplain
        | some schema =>
            obtain ⟨items, found, dropped, hvalue, hmeets, hitems⟩ :=
              conform_items_eq_ok_iff.mp hok
            obtain ⟨result, hresult, rfl, rfl⟩ :=
              exists_item_results_of_ok hitems
            simp only [Nat.zero_add] at hresult
            rcases hvalue with ⟨rfl, rfl⟩ | ⟨rfl, rfl⟩
            · exact .array (Or.inl rfl) hmeets hresult
            · exact .array (Or.inr rfl) hmeets hresult
    | object presence properties =>
        cases properties with
        | none => exact absurd rfl hplain
        | some properties =>
            obtain ⟨entries, kept, dropped, rfl, hproperties, rfl⟩ :=
              conform_properties_eq_ok_iff.mp hok
            obtain ⟨result, hresult, rfl, rfl⟩ :=
              exists_results_of_ok hproperties
            exact .object hresult
    | union presence alternatives =>
        rw [conform_union_eq_ok_iff, conformAlternatives_eq_ok_iff] at hok
        obtain ⟨before, alternative, after, rfl, hbefore, hfirst⟩ := hok
        refine .union ?_ hfirst
        intro earlier hearlier haccepts
        obtain ⟨other, hother⟩ := haccepts path
        exact hbefore earlier hearlier other hother
    | _ => exact absurd rfl hplain

theorem checked_of_ok {schema : Schema} {value : Value} {path : String}
    {accepted : Accepted} (hok : schema.validate value path = .ok accepted) :
    Checked schema value path accepted := by
  rcases value.isAbsent_or_runtime_or_concrete with
    habsent | ⟨source, rfl⟩ | hconcrete
  · obtain ⟨hoptional, rfl⟩ := (validate_absent_eq_ok_iff habsent).mp hok
    exact .absent habsent hoptional
  · obtain rfl : { value := .runtime source } = accepted := Except.ok.inj hok
    exact .unchanged (by simp [Value.isAbsent])
  · rw [validate_concrete hconcrete] at hok
    exact checked_of_conform_eq_ok (Value.isAbsent_of_isConcrete hconcrete) hok

end Schema
end ViewCompiler
