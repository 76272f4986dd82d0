import ViewCompiler.Proofs.Schema.Results

/-!
# Nothing is lost without a report

A check rebuilds arrays and objects, and objects may come out with fewer entries
than they had.  The paths that it reports are those of exactly these entries,
once each, in the order in which schema and value are gone through: items by
their index, then declared properties as they are declared, then the entries
that are not declared as they were given.

If nothing is reported, then nothing is taken away: the result is the value
with defaults added for declared properties that were not given.
-/

namespace ViewCompiler

/-- The trail leads to an entry of the value that the result has no longer,
while it still has the object that the entry stands in. -/
def Value.Loses (value result : Value) (trail : Trail) : Prop :=
  ∃ front key entries kept,
    trail = front ++ [.entry key] ∧
      value.at? front = some (.record entries) ∧
      result.at? front = some (.record kept) ∧
      key ∈ Entries.keys entries ∧ key ∉ Entries.keys kept

namespace Schema

/-- The first place is reached before the second one when the value is gone
through as the schema says. -/
inductive Precedes : Schema → Value → Trail → Trail → Prop
  | earlierItem {presence : Presence} {schema : Schema} {size : SizeLimits}
      {value : Value} {i j : Nat} {first second : Trail} (hlt : i < j) :
      Precedes (.array presence (some schema) size) value
        (.item i :: first) (.item j :: second)
  | inItem {presence : Presence} {schema : Schema} {size : SizeLimits}
      {value item : Value} {i : Nat} {first second : Trail}
      (hitem : value.step? (.item i) = some item)
      (hinner : Precedes schema item first second) :
      Precedes (.array presence (some schema) size) value
        (.item i :: first) (.item i :: second)
  | earlierProperty {presence : Presence}
      {properties : List (String × Schema)} {value : Value}
      {key other : String} {first second : Trail}
      (horder : [key, other].Sublist (Entries.keys properties)) :
      Precedes (.object presence (some properties)) value
        (.entry key :: first) (.entry other :: second)
  | inProperty {presence : Presence} {properties : List (String × Schema)}
      {property : String × Schema} {value entry : Value}
      {first second : Trail} (hmem : property ∈ properties)
      (hentry : value.step? (.entry property.1) = some entry)
      (hinner : Precedes property.2 entry first second) :
      Precedes (.object presence (some properties)) value
        (.entry property.1 :: first) (.entry property.1 :: second)
  | declaredFirst {presence : Presence} {properties : List (String × Schema)}
      {value : Value} {key other : String} {first second : Trail}
      (hdeclared : key ∈ Entries.keys properties)
      (hundeclared : other ∉ Entries.keys properties) :
      Precedes (.object presence (some properties)) value
        (.entry key :: first) (.entry other :: second)
  | earlierEntry {presence : Presence} {properties : List (String × Schema)}
      {entries : List (String × Value)} {key other : String}
      {first second : Trail} (hkey : key ∉ Entries.keys properties)
      (hother : other ∉ Entries.keys properties)
      (horder : [key, other].Sublist (Entries.keys entries)) :
      Precedes (.object presence (some properties)) (.record entries)
        (.entry key :: first) (.entry other :: second)
  | alternative {presence : Presence} {before after : List Schema}
      {schema : Schema} {value : Value} {first second : Trail}
      (hbefore : ∀ earlier ∈ before, ¬Accepts earlier value)
      (haccepts : Accepts schema value)
      (hinner : Precedes schema value first second) :
      Precedes (.union presence (before ++ schema :: after)) value first second

/-- The result has everything that the value has.  What it has beyond that are
defaults of declared properties that the value does not have. -/
inductive Supplements : Schema → Value → Value → Prop
  | same {schema : Schema} {value : Value} : Supplements schema value value
  | array {presence : Presence} {schema : Schema} {size : SizeLimits}
      {rebuild : List Value → Value} {items found : List Value}
      (hrebuild : Value.MakesArrays rebuild)
      (hlength : found.length = items.length)
      (hitems : ∀ (i : Nat) value result, items[i]? = some value →
        found[i]? = some result → Supplements schema value result) :
      Supplements (.array presence (some schema) size) (rebuild items)
        (rebuild found)
  | object {presence : Presence} {properties : List (String × Schema)}
      {entries kept : List (String × Value)}
      (hkept : ∀ key ∈ Entries.keys entries,
        key ∈ Entries.keys properties ∧ key ∈ Entries.keys kept)
      (hgiven : ∀ key schema value result,
        Entries.get? properties key = some schema →
          Entries.get? entries key = some value →
            Entries.get? kept key = some result →
              Supplements schema value result)
      (hadded : ∀ key result, key ∉ Entries.keys entries →
        Entries.get? kept key = some result →
          result ≠ .null ∧ ∃ schema,
            Entries.get? properties key = some schema ∧
              schema.default = result) :
      Supplements (.object presence (some properties)) (.record entries)
        (.record kept)
  | union {presence : Presence} {alternatives : List Schema}
      {alternative : Schema} {value result : Value}
      (hmem : alternative ∈ alternatives)
      (hinner : Supplements alternative value result) :
      Supplements (.union presence alternatives) value result

end Schema

/-! ## Lost entries, step by step -/

namespace Value

variable {value result : Value} {trail : Trail}

theorem loses_iff :
    value.Loses result trail ↔
      (∃ key entries kept, trail = [.entry key] ∧ value = .record entries ∧
        result = .record kept ∧ key ∈ Entries.keys entries ∧
          key ∉ Entries.keys kept) ∨
      ∃ step inner item out, trail = step :: inner ∧
        value.step? step = some item ∧ result.step? step = some out ∧
          item.Loses out inner := by
  constructor
  · rintro ⟨front, key, entries, kept, rfl, hvalue, hresult, hlost⟩
    cases front with
    | nil =>
        exact Or.inl ⟨key, entries, kept, rfl, Option.some.inj hvalue,
          Option.some.inj hresult, hlost⟩
    | cons step front =>
        rw [at?, Option.bind_eq_some_iff] at hvalue hresult
        obtain ⟨item, hitem, hvalue⟩ := hvalue
        obtain ⟨out, hout, hresult⟩ := hresult
        exact Or.inr ⟨step, _, item, out, rfl, hitem, hout, front, key, entries,
          kept, rfl, hvalue, hresult, hlost⟩
  · rintro (⟨key, entries, kept, rfl, rfl, rfl, hlost⟩ |
      ⟨step, _, item, out, rfl, hitem, hout, front, key, entries, kept, rfl,
        hvalue, hresult, hlost⟩)
    · exact ⟨[], key, entries, kept, rfl, rfl, rfl, hlost⟩
    · refine ⟨step :: front, key, entries, kept, rfl, ?_, ?_, hlost⟩
      · rw [at?, hitem, Option.bind_some, hvalue]
      · rw [at?, hout, Option.bind_some, hresult]

theorem not_loses_self : ¬value.Loses value trail := by
  rintro ⟨front, key, entries, kept, _, hvalue, hresult, hkey, hlost⟩
  rw [hvalue, Option.some.injEq, record.injEq] at hresult
  exact hlost (hresult ▸ hkey)

theorem loses_array_iff {rebuild : List Value → Value}
    (hrebuild : MakesArrays rebuild) {items found : List Value} :
    (rebuild items).Loses (rebuild found) trail ↔
      ∃ i inner item out, trail = .item i :: inner ∧ items[i]? = some item ∧
        found[i]? = some out ∧ item.Loses out inner := by
  rw [loses_iff]
  constructor
  · rintro (⟨_, _, _, _, hvalue, _⟩ |
      ⟨step, inner, item, out, rfl, hitem, hout, hinner⟩)
    · rcases hrebuild with rfl | rfl <;> contradiction
    · cases step with
      | item i =>
          rw [hrebuild.step?_item] at hitem hout
          exact ⟨i, inner, item, out, rfl, hitem, hout, hinner⟩
      | entry key =>
          rw [hrebuild.step?_entry] at hitem
          contradiction
  · rintro ⟨i, inner, item, out, rfl, hitem, hout, hinner⟩
    refine Or.inr ⟨.item i, inner, item, out, rfl, ?_, ?_, hinner⟩
    · rw [hrebuild.step?_item, hitem]
    · rw [hrebuild.step?_item, hout]

theorem loses_record_iff {entries kept : List (String × Value)} :
    (record entries).Loses (record kept) trail ↔
      (∃ key, trail = [.entry key] ∧ key ∈ Entries.keys entries ∧
        key ∉ Entries.keys kept) ∨
      ∃ key inner item out, trail = .entry key :: inner ∧
        Entries.get? entries key = some item ∧
        Entries.get? kept key = some out ∧ item.Loses out inner := by
  rw [loses_iff]
  constructor
  · rintro (⟨key, _, _, rfl, hentries, hkept, hlost⟩ |
      ⟨step, inner, item, out, rfl, hitem, hout, hinner⟩)
    · cases hentries
      cases hkept
      exact Or.inl ⟨key, rfl, hlost⟩
    · cases step with
      | item i => contradiction
      | entry key =>
          exact Or.inr ⟨key, inner, item, out, rfl, hitem, hout, hinner⟩
  · rintro (⟨key, rfl, hlost⟩ |
      ⟨key, inner, item, out, rfl, hitem, hout, hinner⟩)
    · exact Or.inl ⟨key, entries, kept, rfl, rfl, rfl, hlost⟩
    · exact Or.inr ⟨.entry key, inner, item, out, rfl, hitem, hout, hinner⟩

end Value

namespace Schema

/-! ## The order is strict -/

theorem Precedes.ne {schema : Schema} {value : Value} {first second : Trail}
    (hprecedes : Precedes schema value first second)
    (hnames : Throughout DistinctNames schema)
    (hkeys : value.Throughout Value.DistinctKeys) : first ≠ second := by
  induction hprecedes with
  | earlierItem hlt =>
      intro heq
      rw [List.cons.injEq, Step.item.injEq] at heq
      exact absurd heq.1 (Nat.ne_of_lt hlt)
  | inItem hitem _ ih =>
      intro heq
      rw [List.cons.injEq] at heq
      exact ih (hnames.part .items) (hkeys.step hitem) heq.2
  | earlierProperty horder =>
      intro heq
      rw [List.cons.injEq, Step.entry.injEq] at heq
      have hpair := horder.nodup hnames.self
      simp [heq.1] at hpair
  | inProperty hmem hentry _ ih =>
      intro heq
      rw [List.cons.injEq] at heq
      exact ih (hnames.part (.property hmem)) (hkeys.step hentry) heq.2
  | declaredFirst hdeclared hundeclared =>
      intro heq
      rw [List.cons.injEq, Step.entry.injEq] at heq
      exact hundeclared (heq.1 ▸ hdeclared)
  | earlierEntry _ _ horder =>
      intro heq
      rw [List.cons.injEq, Step.entry.injEq] at heq
      have hpair := horder.nodup hkeys.self
      simp [heq.1] at hpair
  | alternative _ _ _ ih =>
      exact ih (hnames.part (.alternative (by simp))) hkeys

/-! ## The places of lost entries -/

/-- The places are those of the lost entries, in order. -/
structure Lists (schema : Schema) (value result : Value)
    (places : List Trail) : Prop where
  mem_iff : ∀ trail, trail ∈ places ↔ value.Loses result trail
  ordered : places.Pairwise (Precedes schema value)

private theorem lists_self (schema : Schema) (value : Value) :
    Lists schema value value [] := by
  constructor
  · intro trail
    simp [Value.not_loses_self]
  · exact .nil

/-- The places inside the items, item by item. -/
def arrayPlaces (count : Nat) (places : Nat → List Trail) : List Trail :=
  (List.range count).flatMap fun i => (places i).map (.item i :: ·)

theorem map_path_arrayPlaces (path : String) (count : Nat)
    (places : Nat → List Trail) :
    (arrayPlaces count places).map (Trail.path path) =
      (List.range count).flatMap fun i =>
        (places i).map (Trail.path (path ++ "[" ++ toString i ++ "]")) := by
  simp only [arrayPlaces, List.map_flatMap, List.map_map, Function.comp_def,
    Trail.path_item]

private theorem lists_array {schema : Schema} {rebuild : List Value → Value}
    {items : List Value} {result : Nat → Value} {places : Nat → List Trail}
    (hrebuild : Value.MakesArrays rebuild)
    (hplaces : ∀ i item, items[i]? = some item →
      Lists schema item (result i) (places i))
    (presence : Presence) (size : SizeLimits) :
    Lists (.array presence (some schema) size) (rebuild items)
      (rebuild ((List.range items.length).map result))
      (arrayPlaces items.length places) := by
  constructor
  · intro trail
    rw [Value.loses_array_iff hrebuild]
    simp only [arrayPlaces, List.mem_flatMap, List.mem_range, List.mem_map]
    constructor
    · rintro ⟨i, hi, inner, hinner, rfl⟩
      have hitem : items[i]? = some items[i] := List.getElem?_eq_getElem hi
      refine ⟨i, inner, items[i], result i, rfl, hitem, by simp [hi], ?_⟩
      exact ((hplaces i _ hitem).mem_iff inner).mp hinner
    · rintro ⟨i, inner, item, out, rfl, hitem, hout, hinner⟩
      obtain ⟨hi, _⟩ := List.getElem?_eq_some_iff.mp hitem
      obtain rfl : result i = out := by simpa [hi] using hout
      exact ⟨i, hi, inner, ((hplaces i item hitem).mem_iff inner).mpr hinner,
        rfl⟩
  · rw [arrayPlaces, List.pairwise_flatMap]
    constructor
    · intro i hi
      rw [List.mem_range] at hi
      have hitem : items[i]? = some items[i] := List.getElem?_eq_getElem hi
      rw [List.pairwise_map]
      refine (hplaces i _ hitem).ordered.imp ?_
      intro first second hinner
      exact .inItem ((hrebuild.step?_item items i).trans hitem) hinner
    · refine List.pairwise_lt_range.imp ?_
      intro i j hlt first hfirst second hsecond
      obtain ⟨_, _, rfl⟩ := List.mem_map.mp hfirst
      obtain ⟨_, _, rfl⟩ := List.mem_map.mp hsecond
      exact .earlierItem hlt

section Object

variable {properties : List (String × Schema)}
  {entries : List (String × Value)} {result : String × Schema → Value}
  {places : String × Schema → List Trail}

/-- The places inside declared properties, then the keys that are not
declared. -/
def objectPlaces (properties : List (String × Schema))
    (entries : List (String × Value))
    (places : String × Schema → List Trail) : List Trail :=
  (properties.flatMap fun property =>
      (places property).map (.entry property.1 :: ·)) ++
    ((Entries.keys entries).filter fun key =>
      !Entries.has properties key).map fun key => [.entry key]

theorem map_path_objectPlaces (path : String) :
    (objectPlaces properties entries places).map (Trail.path path) =
      (properties.flatMap fun property =>
        (places property).map (Trail.path (path ++ "." ++ property.1))) ++
      ((Entries.keys entries).filter fun key =>
        !Entries.has properties key).map (path ++ "." ++ ·) := by
  have hentry : ∀ key, Trail.path path [.entry key] = path ++ "." ++ key := by
    intro key
    rw [Trail.path_entry]
    rfl
  simp only [objectPlaces, List.map_append, List.map_flatMap, List.map_map,
    Function.comp_def, Trail.path_entry, hentry]

theorem mem_objectPlaces_iff {trail : Trail} :
    trail ∈ objectPlaces properties entries places ↔
      (∃ property ∈ properties, ∃ inner ∈ places property,
        trail = .entry property.1 :: inner) ∨
      ∃ key, trail = [.entry key] ∧ key ∈ Entries.keys entries ∧
        key ∉ Entries.keys properties := by
  simp only [objectPlaces, List.mem_append, List.mem_flatMap, List.mem_map,
    mem_undeclared_iff]
  constructor
  · rintro (⟨property, hmem, inner, hinner, rfl⟩ |
      ⟨key, ⟨hkey, hundeclared⟩, rfl⟩)
    · exact Or.inl ⟨property, hmem, inner, hinner, rfl⟩
    · exact Or.inr ⟨key, rfl, hkey, hundeclared⟩
  · rintro (⟨property, hmem, inner, hinner, rfl⟩ |
      ⟨key, rfl, hkey, hundeclared⟩)
    · exact Or.inl ⟨property, hmem, inner, hinner, rfl⟩
    · exact Or.inr ⟨key, ⟨hkey, hundeclared⟩, rfl⟩

variable
  (hplaces : ∀ property ∈ properties, ∀ item,
    Entries.get? entries property.1 = some item →
      Lists property.2 item (result property) (places property))
  (hmissing : ∀ property ∈ properties,
    Entries.has entries property.1 = false → places property = [])

include hplaces hmissing

private theorem objectPlaces_ordered (presence : Presence) :
    (objectPlaces properties entries places).Pairwise
      (Precedes (.object presence (some properties)) (.record entries)) := by
  rw [objectPlaces, List.pairwise_append, List.pairwise_flatMap]
  refine ⟨⟨?_, ?_⟩, ?_, ?_⟩
  · intro property hmem
    rw [List.pairwise_map]
    -- There are no places inside a property that was not given.
    cases hentry : Entries.get? entries property.1 with
    | none =>
        rw [hmissing property hmem (Entries.has_of_get?_eq_none hentry)]
        exact .nil
    | some item =>
        refine (hplaces property hmem item hentry).ordered.imp ?_
        intro first second hinner
        exact .inProperty hmem hentry hinner
  · rw [List.pairwise_iff_forall_sublist]
    intro property other hsublist first hfirst second hsecond
    obtain ⟨_, _, rfl⟩ := List.mem_map.mp hfirst
    obtain ⟨_, _, rfl⟩ := List.mem_map.mp hsecond
    exact .earlierProperty (hsublist.map Prod.fst)
  · rw [List.pairwise_map, List.pairwise_iff_forall_sublist]
    intro key other hsublist
    have hundeclared : ∀ name ∈ [key, other],
        name ∉ Entries.keys properties :=
      fun name hname => (mem_undeclared_iff.mp (hsublist.subset hname)).2
    exact .earlierEntry (hundeclared key (by simp))
      (hundeclared other (by simp)) (hsublist.trans List.filter_sublist)
  · intro first hfirst second hsecond
    obtain ⟨property, hmem, hfirst⟩ := List.mem_flatMap.mp hfirst
    obtain ⟨_, _, rfl⟩ := List.mem_map.mp hfirst
    obtain ⟨key, hkey, rfl⟩ := List.mem_map.mp hsecond
    exact .declaredFirst (List.mem_map_of_mem hmem)
      (mem_undeclared_iff.mp hkey).2

private theorem lists_object (hnames : (Entries.keys properties).Nodup)
    (presence : Presence) :
    Lists (.object presence (some properties)) (.record entries)
      (.record (keptEntries properties entries result))
      (objectPlaces properties entries places) := by
  refine ⟨?_, objectPlaces_ordered hplaces hmissing presence⟩
  intro trail
  rw [mem_objectPlaces_iff, Value.loses_record_iff]
  constructor
  · rintro (⟨property, hmem, inner, hinner, rfl⟩ |
      ⟨key, rfl, hkey, hundeclared⟩)
    · cases hentry : Entries.get? entries property.1 with
      | none =>
          rw [hmissing property hmem
            (Entries.has_of_get?_eq_none hentry)] at hinner
          contradiction
      | some item =>
          have hgiven := Entries.has_of_get?_eq_some hentry
          refine Or.inr ⟨property.1, inner, item, result property, rfl, hentry,
            get?_keptEntries_of_given hnames hmem hgiven, ?_⟩
          exact ((hplaces property hmem item hentry).mem_iff inner).mp hinner
    · refine Or.inl ⟨key, rfl, hkey, ?_⟩
      intro hkept
      exact hundeclared (keys_keptEntries_sublist.subset hkept)
  · rintro (⟨key, rfl, hkey, hlost⟩ |
      ⟨key, inner, item, out, rfl, hentry, hout, hinner⟩)
    · refine Or.inr ⟨key, rfl, hkey, ?_⟩
      intro hdeclared
      exact hlost (mem_keys_keptEntries_of_given hnames hdeclared hkey)
    · -- What is kept under a key is the result of the property of that name.
      have hkept : key ∈ Entries.keys properties := by
        apply keys_keptEntries_sublist.subset
        exact List.mem_map_of_mem (Entries.mem_of_get?_eq_some hout)
      obtain ⟨property, hmem, rfl⟩ := List.mem_map.mp hkept
      have hgiven := Entries.has_of_get?_eq_some hentry
      rw [get?_keptEntries_of_given hnames hmem hgiven,
        Option.some.injEq] at hout
      subst out
      exact Or.inl ⟨property, hmem, inner,
        ((hplaces property hmem item hentry).mem_iff inner).mpr hinner, rfl⟩

end Object

/-! ## What is reported -/

/-- The reported paths are those of the lost entries. -/
def Reports (schema : Schema) (value : Value) (path : String)
    (accepted : Accepted) : Prop :=
  ∃ places : List Trail, accepted.dropped = places.map (Trail.path path) ∧
    Lists schema value accepted.value places

private theorem reports_array {schema : Schema} {rebuild : List Value → Value}
    {items : List Value} {path : String} {result : Nat → Accepted}
    (hrebuild : Value.MakesArrays rebuild)
    (hreports : ∀ i item, items[i]? = some item →
      Reports schema item (path ++ "[" ++ toString i ++ "]") (result i))
    (presence : Presence) (size : SizeLimits) :
    Reports (.array presence (some schema) size) (rebuild items) path
      { value := rebuild
          ((List.range items.length).map fun i => (result i).value)
        dropped := (List.range items.length).flatMap fun i =>
          (result i).dropped } := by
  have hexists : ∀ i, ∃ places : List Trail, ∀ item, items[i]? = some item →
      (result i).dropped =
          places.map (Trail.path (path ++ "[" ++ toString i ++ "]")) ∧
        Lists schema item (result i).value places := by
    intro i
    cases hitem : items[i]? with
    | none => exact ⟨[], by simp⟩
    | some item =>
        obtain ⟨places, hplaces⟩ := hreports i item hitem
        refine ⟨places, ?_⟩
        rintro _ ⟨⟩
        exact hplaces
  choose places hplaces using hexists
  refine ⟨arrayPlaces items.length places, ?_, lists_array hrebuild
    (fun i item hitem => (hplaces i item hitem).2) presence size⟩
  rw [map_path_arrayPlaces]
  apply List.flatMap_congr
  intro i hi
  rw [List.mem_range] at hi
  exact (hplaces i _ (List.getElem?_eq_getElem hi)).1

private theorem reports_object {properties : List (String × Schema)}
    {entries : List (String × Value)} {path : String}
    {result : String × Schema → Accepted}
    (hnames : (Entries.keys properties).Nodup)
    (hresult : ∀ property ∈ properties,
      property.2.validate (Value.entry entries property.1)
        (path ++ "." ++ property.1) = .ok (result property))
    (hreports : ∀ property ∈ properties, ∀ item,
      Entries.get? entries property.1 = some item →
        Reports property.2 item (path ++ "." ++ property.1) (result property))
    (presence : Presence) :
    Reports (.object presence (some properties)) (.record entries) path
      { value := .record (keptEntries properties entries fun property =>
          (result property).value)
        dropped := (properties.flatMap fun property =>
            (result property).dropped) ++
          ((Entries.keys entries).filter fun key =>
            !Entries.has properties key).map (path ++ "." ++ ·) } := by
  have hexists : ∀ property, ∃ places : List Trail, property ∈ properties →
      (result property).dropped =
          places.map (Trail.path (path ++ "." ++ property.1)) ∧
        (∀ item, Entries.get? entries property.1 = some item →
          Lists property.2 item (result property).value places) ∧
        (Entries.has entries property.1 = false → places = []) := by
    intro property
    by_cases hmem : property ∈ properties
    · cases hentry : Entries.get? entries property.1 with
      | none =>
          have hdefault := (result_of_not_given (hresult property hmem)
            (Entries.has_of_get?_eq_none hentry)).2
          exact ⟨[], fun _ => ⟨by rw [hdefault]; rfl, by simp, fun _ => rfl⟩⟩
      | some item =>
          obtain ⟨places, hdropped, hlists⟩ :=
            hreports property hmem item hentry
          refine ⟨places, fun _ => ⟨hdropped, ?_, ?_⟩⟩
          · rintro _ ⟨⟩
            exact hlists
          · rw [Entries.has_of_get?_eq_some hentry]
            simp
    · exact ⟨[], fun hmem' => absurd hmem' hmem⟩
  choose places hplaces using hexists
  refine ⟨objectPlaces properties entries places, ?_, lists_object
    (fun property hmem => (hplaces property hmem).2.1)
    (fun property hmem => (hplaces property hmem).2.2) hnames presence⟩
  have hdropped := List.flatMap_congr fun property hmem =>
    (hplaces property hmem).1
  rw [map_path_objectPlaces, ← hdropped]

/-! ## Where nothing is reported -/

private theorem supplements_object {properties : List (String × Schema)}
    {entries : List (String × Value)} {path : String}
    {result : String × Schema → Accepted}
    (hnames : (Entries.keys properties).Nodup)
    (hresult : ∀ property ∈ properties,
      property.2.validate (Value.entry entries property.1)
        (path ++ "." ++ property.1) = .ok (result property))
    (hgiven : ∀ property ∈ properties, ∀ item,
      Entries.get? entries property.1 = some item →
        Supplements property.2 item (result property).value)
    (hdeclared : ∀ key ∈ Entries.keys entries, key ∈ Entries.keys properties)
    (presence : Presence) :
    Supplements (.object presence (some properties)) (.record entries)
      (.record (keptEntries properties entries fun property =>
        (result property).value)) := by
  apply Supplements.object
  · intro key hkey
    exact ⟨hdeclared key hkey,
      mem_keys_keptEntries_of_given hnames (hdeclared key hkey) hkey⟩
  · intro key schema value out hschema hvalue hout
    have hmem := Entries.mem_of_get?_eq_some hschema
    have hhas := Entries.has_of_get?_eq_some hvalue
    rw [get?_keptEntries_of_given hnames hmem hhas, Option.some.injEq] at hout
    rw [← hout]
    exact hgiven _ hmem value hvalue
  · intro key out hkey hout
    obtain ⟨property, hmem, rfl, rfl, hkept⟩ :=
      mem_keptEntries_iff.mp (Entries.mem_of_get?_eq_some hout)
    rw [← Entries.has_iff_mem_keys, Bool.not_eq_true] at hkey
    rw [hkey] at hkept
    have hdefault := (result_of_not_given (hresult property hmem) hkey).2
    refine ⟨?_, property.2, Entries.get?_eq_some_of_mem hnames hmem, ?_⟩
    · intro hnull
      rw [hnull] at hkept
      simp [Value.isNull] at hkept
    · rw [hdefault]

/-- Where no default can be added, the result is the value. -/
theorem Supplements.agrees {schema : Schema} {value result : Value}
    (hsupplements : Supplements schema value result)
    (hnull : ∀ part, PartOf part schema →
      Throughout (fun inner => inner.default = .null) part) :
    result.Agrees value := by
  induction schema using induction_on_parts generalizing value result with
  | hstep schema ih =>
      have hinner : ∀ part, PartOf part schema → ∀ inner, PartOf inner part →
          Throughout (fun inner => inner.default = .null) inner :=
        fun part hpart _ hinner => (hnull part hpart).part hinner
      cases hsupplements with
      | same => exact .refl value
      | @array _ items _ _ values found hrebuild hlength hitems =>
          have hparts : List.Forall₂ Value.Agrees found values := by
            refine List.forall₂_of_length_eq_of_get hlength ?_
            intro i hfound hvalue
            exact ih items .items
              (hitems i _ _ (List.getElem?_eq_getElem hvalue)
                (List.getElem?_eq_getElem hfound))
              (hinner items .items)
          rcases hrebuild with rfl | rfl
          · exact .list hparts
          · exact .tuple hparts
      | @object presence properties entries kept hkept hgiven hadded =>
          have hpart : ∀ key declared,
              Entries.get? properties key = some declared →
                PartOf declared (.object presence (some properties)) :=
            fun _ _ hget => .property (Entries.mem_of_get?_eq_some hget)
          apply Value.Agrees.record
          intro key
          cases hentry : Entries.get? entries key with
          | some item =>
              have hboth := hkept key
                (List.mem_map_of_mem (Entries.mem_of_get?_eq_some hentry))
              rw [← Entries.has_iff_mem_keys,
                ← Entries.has_iff_mem_keys] at hboth
              obtain ⟨declared, hdeclared⟩ :=
                Option.isSome_iff_exists.mp hboth.1
              obtain ⟨out, hout⟩ := Option.isSome_iff_exists.mp hboth.2
              rw [hout]
              exact .some (ih declared (hpart key declared hdeclared)
                (hgiven key declared item out hdeclared hentry hout)
                (hinner declared (hpart key declared hdeclared)))
          | none =>
              cases hout : Entries.get? kept key with
              | none => exact .none
              | some out =>
                  have hkey : key ∉ Entries.keys entries := by
                    rw [← Entries.has_iff_mem_keys, Entries.has, hentry]
                    simp
                  -- An added entry would be a default that is not null.
                  obtain ⟨hne, declared, hdeclared, rfl⟩ :=
                    hadded key out hkey hout
                  exact absurd (hnull declared (hpart key _ hdeclared)).self hne
      | @union _ alternatives alternative _ _ hmem hsupplements =>
          exact ih alternative (.alternative hmem) hsupplements
            (hinner alternative (.alternative hmem))

section Check

variable {schema : Schema} {value : Value} {path : String}
  {accepted : Accepted}
  (hnames : Throughout DistinctNames schema)
  (hpresent : value.Throughout fun inner => ¬inner.isAbsent)
  (hok : schema.validate value path = .ok accepted)

include hnames hpresent hok

private theorem reports_of_ok : Reports schema value path accepted := by
  induction schema using induction_on_parts
    generalizing value path accepted with
  | hstep schema ih =>
      cases checked_of_ok hok with
      | absent habsent => exact absurd habsent hpresent.self
      | unchanged => exact ⟨[], rfl, lists_self schema value⟩
      | array hrebuild _ hresult =>
          refine reports_array hrebuild ?_ _ _
          intro i item hitem
          have hstep := (hrebuild.step?_item _ i).trans hitem
          exact ih _ .items (hnames.part .items) (hpresent.step hstep)
            (hresult i item hitem)
      | @object presence properties entries _ result hresult =>
          refine reports_object hnames.self hresult ?_ presence
          intro property hmem item hentry
          have hstep : (Value.record entries).step? (.entry property.1) =
            some item := hentry
          exact ih property.2 (.property hmem) (hnames.part (.property hmem))
            (hpresent.step hstep) (result_of_given (hresult property hmem) hentry)
      | @union presence before after alternative _ _ _ hbefore hfirst =>
          have hpart : PartOf alternative
              (.union presence (before ++ alternative :: after)) :=
            .alternative (by simp)
          obtain ⟨places, hdropped, hlists⟩ :=
            ih alternative hpart (hnames.part hpart) hpresent hfirst
          refine ⟨places, hdropped, hlists.mem_iff, hlists.ordered.imp ?_⟩
          intro first second hinner
          exact .alternative hbefore (accepts_of_ok hfirst) hinner

private theorem supplements_of_ok (hnone : accepted.dropped = []) :
    Supplements schema value accepted.value := by
  induction schema using induction_on_parts
    generalizing value path accepted with
  | hstep schema ih =>
      cases checked_of_ok hok with
      | absent habsent => exact absurd habsent hpresent.self
      | unchanged => exact .same
      | @array _ items _ _ values _ result hrebuild _ hresult =>
          rw [List.flatMap_eq_nil_iff] at hnone
          refine .array hrebuild (by simp) ?_
          intro i item out hitem hout
          obtain ⟨hi, _⟩ := List.getElem?_eq_some_iff.mp hitem
          obtain rfl : (result i).value = out := by simpa [hi] using hout
          have hstep := (hrebuild.step?_item values i).trans hitem
          exact ih items .items (hnames.part .items) (hpresent.step hstep)
            (hresult i item hitem) (hnone i (List.mem_range.mpr hi))
      | @object presence properties entries _ result hresult =>
          rw [List.append_eq_nil_iff, List.flatMap_eq_nil_iff,
            List.map_eq_nil_iff, List.eq_nil_iff_forall_not_mem] at hnone
          obtain ⟨hinside, hdeclared⟩ := hnone
          refine supplements_object hnames.self hresult ?_ ?_ presence
          · intro property hmem item hentry
            have hstep : (Value.record entries).step? (.entry property.1) =
              some item := hentry
            exact ih property.2 (.property hmem) (hnames.part (.property hmem))
              (hpresent.step hstep)
              (result_of_given (hresult property hmem) hentry)
              (hinside property hmem)
          · intro key hkey
            by_contra hundeclared
            exact hdeclared key (mem_undeclared_iff.mpr ⟨hkey, hundeclared⟩)
      | @union presence before after alternative _ _ _ hbefore hfirst =>
          have hpart : PartOf alternative
              (.union presence (before ++ alternative :: after)) :=
            .alternative (by simp)
          exact .union (by simp)
            (ih alternative hpart (hnames.part hpart) hpresent hfirst hnone)

end Check

/-- Nothing is lost without a report.  For a value without absent parts, the
dropped paths are those of the entries that are lost, each once and in order.
If there are none, the result is the value with defaults added, and if no
default can be added either, it is the value. -/
theorem dropped_reports_every_loss {schema : Schema} {value : Value}
    {path : String} {accepted : Accepted}
    (hnames : Throughout DistinctNames schema)
    (hkeys : value.Throughout Value.DistinctKeys)
    (hpresent : value.Throughout fun inner => ¬inner.isAbsent)
    (hok : schema.validate value path = .ok accepted) :
    (∃ places : List Trail,
      accepted.dropped = places.map (Trail.path path) ∧
        places.Nodup ∧
        (∀ trail, trail ∈ places ↔ value.Loses accepted.value trail) ∧
        places.Pairwise (Precedes schema value)) ∧
    (accepted.dropped = [] →
      Supplements schema value accepted.value ∧
        ((∀ part, PartOf part schema →
          Throughout (fun inner => inner.default = .null) part) →
            accepted.value.Agrees value)) := by
  constructor
  · obtain ⟨places, hdropped, hlists⟩ := reports_of_ok hnames hpresent hok
    refine ⟨places, hdropped, ?_, hlists.mem_iff, hlists.ordered⟩
    exact hlists.ordered.imp fun hprecedes => hprecedes.ne hnames hkeys
  · intro hnone
    have hsupplements := supplements_of_ok hnames hpresent hok hnone
    exact ⟨hsupplements, hsupplements.agrees⟩

/-- A gallery has images, each given by its source alone or with a caption. -/
def gallery (caption : Value) : Schema :=
  .object {} (some
    [("images", .array {}
      (some (.union {}
        [.string {} {},
          .object {} (some
            [("source", .string { required := true } {}),
              ("caption", .string { default := caption } {})])]))
      {})])

theorem gallery_distinctNames (caption : Value) :
    Throughout DistinctNames (gallery caption) := by
  have hgallery : DistinctNames (gallery caption) := by
    simp [DistinctNames, gallery, Entries.keys]
  refine .object hgallery ?_
  rw [List.forall_mem_singleton]
  refine .array trivial (.union trivial ?_)
  rw [List.forall_mem_cons, List.forall_mem_singleton]
  refine ⟨.of_plain rfl trivial,
    .object (by simp [DistinctNames, Entries.keys]) ?_⟩
  rw [List.forall_mem_cons, List.forall_mem_singleton]
  exact ⟨.of_plain rfl trivial, .of_plain rfl trivial⟩

/-- The theme of the gallery and the size of its image are not declared. -/
def looseGallery : Value :=
  .record
    [("theme", .text "dark"),
      ("images", .tuple
        [.text "a.png",
          .record [("size", .text "large"), ("source", .text "b.png")]])]

def plainGallery : Value :=
  .record
    [("images", .tuple [.text "a.png", .record [("source", .text "b.png")]])]

def captionedGallery : Value :=
  .record
    [("images", .tuple
      [.text "a.png",
        .record [("source", .text "b.png"), ("caption", .text "Image")]])]

private theorem galleries_present :
    looseGallery.Throughout
        (fun inner => inner.DistinctKeys ∧ ¬inner.isAbsent) ∧
      plainGallery.Throughout
        (fun inner => inner.DistinctKeys ∧ ¬inner.isAbsent) := by
  have htext : ∀ text, Value.Throughout
      (fun inner => inner.DistinctKeys ∧ ¬inner.isAbsent) (.text text) :=
    fun _ => .text ⟨trivial, Bool.false_ne_true⟩
  constructor
  · refine .record ⟨by simp [Value.DistinctKeys, Entries.keys], Bool.false_ne_true⟩ ?_
    rw [List.forall_mem_cons, List.forall_mem_singleton]
    refine ⟨htext _, .array (Or.inr rfl) ⟨trivial, Bool.false_ne_true⟩ ?_⟩
    rw [List.forall_mem_cons, List.forall_mem_singleton]
    refine ⟨htext _, .record
      ⟨by simp [Value.DistinctKeys, Entries.keys], Bool.false_ne_true⟩ ?_⟩
    rw [List.forall_mem_cons, List.forall_mem_singleton]
    exact ⟨htext _, htext _⟩
  · refine .record ⟨by simp [Value.DistinctKeys, Entries.keys], Bool.false_ne_true⟩ ?_
    rw [List.forall_mem_singleton]
    refine .array (Or.inr rfl) ⟨trivial, Bool.false_ne_true⟩ ?_
    rw [List.forall_mem_cons, List.forall_mem_singleton]
    refine ⟨htext _, .record
      ⟨by simp [Value.DistinctKeys, Entries.keys], Bool.false_ne_true⟩ ?_⟩
    rw [List.forall_mem_singleton]
    exact htext _

theorem gallery_losses_reported :
    (∃ places : List Trail,
      ["gallery.images[1].size", "gallery.theme"] =
          places.map (Trail.path "gallery") ∧
        places.Nodup ∧
        ∀ trail, trail ∈ places ↔ looseGallery.Loses plainGallery trail) ∧
    Supplements (gallery (.text "Image")) plainGallery captionedGallery := by
  have hloose : (gallery .null).validate looseGallery "gallery" =
      .ok { value := plainGallery
            dropped := ["gallery.images[1].size", "gallery.theme"] } := rfl
  have hplain : (gallery (.text "Image")).validate plainGallery "gallery" =
      .ok { value := captionedGallery } := rfl
  obtain ⟨hlooseParts, hplainParts⟩ := galleries_present
  have hlosses := dropped_reports_every_loss (gallery_distinctNames .null)
    (hlooseParts.imp fun _ hinner => hinner.1)
    (hlooseParts.imp fun _ hinner => hinner.2) hloose
  have hcaption := dropped_reports_every_loss (gallery_distinctNames _)
    (hplainParts.imp fun _ hinner => hinner.1)
    (hplainParts.imp fun _ hinner => hinner.2) hplain
  obtain ⟨places, hdropped, hnodup, hmem, _⟩ := hlosses.1
  exact ⟨⟨places, hdropped, hnodup, hmem⟩, (hcaption.2 rfl).1⟩

end Schema

end ViewCompiler
