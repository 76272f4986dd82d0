import ViewCompiler.Proofs.Program.ParserOutput
import ViewCompiler.Proofs.Program.Serialization
import Mathlib.Data.List.Forall2

/-!
# The forms of a program agree

A program may be handed over as a list in which definitions and nodes stand
beside each other, as an object that holds them apart, or as a single item.
The list is gone through twice, once for the definitions and once for the
nodes, and every pass asks again which items are definitions.  Sorting the items
first gives the same outcome, whatever the items are: the same program, or the
error of the same item.
-/

namespace ViewCompiler

def Json.isNull : Json → Bool
  | .null => true
  | _ => false

/-- Data that is neither a list nor an object. -/
def Json.isScalar : Json → Bool
  | .array _ | .object _ => false
  | _ => true

/-- What holds of every value in an object, and of null, holds of every field,
whether it is there or not. -/
theorem Json.field_of_forall {holds : Json → Prop} (hnull : holds .null)
    {entries : List (String × Json)} (hentries : ∀ entry ∈ entries, holds entry.2)
    (key : String) : holds ((Json.object entries).field key) := by
  rw [Json.field, Json.field?]
  cases hget : Entries.get? entries key with
  | none => exact hnull
  | some found => exact hentries _ (Entries.mem_of_get?_eq_some hget)

namespace Load

variable {α β : Type}

theorem scalar_of_isScalar {data : Json} (hscalar : data.isScalar = true) :
    scalar data = .ok () := by
  cases data with
  | array items => contradiction
  | object entries => contradiction
  | null | bool _ | number _ | text _ => rfl

/-! ## Definitions among items -/

/-- The item is taken for a definition. -/
def takesForDefinition (item : Json) : Bool :=
  match isDefinition item with
  | .ok found => found
  | .error _ => false

theorem takesForDefinition_of_eq_ok {item : Json} {found : Bool}
    (hfound : isDefinition item = .ok found) :
    takesForDefinition item = found := by
  rw [takesForDefinition, hfound]

/-- Only a type that is a list or an object keeps an item from being told. -/
theorem isDefinition_of_isScalar {item : Json}
    (htype : (item.field "type").isScalar = true) :
    isDefinition item = .ok (takesForDefinition item) := by
  have htold : ∃ found, isDefinition item = .ok found := by
    cases item with
    | object entries =>
        by_cases hkind :
            ((Json.object entries).field "kind").isText "component" = true
        · exact ⟨true, by simp only [isDefinition, hkind, if_true]⟩
        · have hscalar := scalar_of_isScalar htype
          by_cases hmember : definitionTypes.any
              ((Json.object entries).field "type").isText = true
          · refine ⟨true, ?_⟩
            simp only [isDefinition, hkind, hscalar, hmember]
            rfl
          · refine ⟨Entries.has entries "params" && Entries.has entries "body", ?_⟩
            simp only [isDefinition, hkind, hscalar, hmember]
            rfl
    | null | bool _ | number _ | text _ | array _ => exact ⟨false, rfl⟩
  obtain ⟨found, hfound⟩ := htold
  rw [hfound, takesForDefinition_of_eq_ok hfound]

/-- The items that are taken for definitions, in order. -/
def definitionsAmong (items : List Json) : List Json :=
  items.filter takesForDefinition

/-- The other items, in order. -/
def nodesAmong (items : List Json) : List Json :=
  items.filter fun item => !takesForDefinition item

theorem definitionItems_eq_mapM {items : List Json}
    (htold : ∀ item ∈ items,
      isDefinition item = .ok (takesForDefinition item)) :
    definitionItems items = (definitionsAmong items).mapM definition := by
  induction items with
  | nil => rfl
  | cons item rest ih =>
      obtain ⟨hitem, hrest⟩ := List.forall_mem_cons.mp htold
      rw [definitionItems, hitem, ih hrest]
      cases htaken : takesForDefinition item with
      | true =>
          have hfilter : definitionsAmong (item :: rest) =
              item :: definitionsAmong rest :=
            List.filter_cons_of_pos htaken
          rw [hfilter, List.mapM_cons]
          rfl
      | false =>
          have hfilter : definitionsAmong (item :: rest) =
              definitionsAmong rest :=
            List.filter_cons_of_neg (by simp [htaken])
          rw [hfilter]
          rfl

theorem nodeItems_eq_nodes {items : List Json}
    (htold : ∀ item ∈ items,
      isDefinition item = .ok (takesForDefinition item)) :
    nodeItems items = nodes (nodesAmong items) := by
  induction items with
  | nil => rfl
  | cons item rest ih =>
      obtain ⟨hitem, hrest⟩ := List.forall_mem_cons.mp htold
      rw [nodeItems, hitem, ih hrest]
      cases htaken : takesForDefinition item with
      | true =>
          have hfilter : nodesAmong (item :: rest) = nodesAmong rest :=
            List.filter_cons_of_neg (by simp [htaken])
          rw [hfilter]
          rfl
      | false =>
          have hfilter : nodesAmong (item :: rest) = item :: nodesAmong rest :=
            List.filter_cons_of_pos (by simp [htaken])
          rw [hfilter, nodes]
          rfl

theorem parts_of_lists (components body : List Json) :
    parts [("components", .array components), ("body", .array body)] = do
      let definitions ← components.mapM definition
      let nodes ← nodes body
      return { definitions, body := nodes } := by
  have hunfold :
      parts [("components", .array components), ("body", .array body)] = do
        let list ← iterate (.array components)
        let definitions ← list.mapM definition
        let nodes ← nodes body
        return { definitions, body := nodes } := rfl
  rw [hunfold, iterate_array]
  rfl

/-- Going through the items twice is the same as sorting them first. -/
theorem items_eq_parts {list : List Json}
    (htold : ∀ item ∈ list,
      isDefinition item = .ok (takesForDefinition item)) :
    items list =
      parts [("components", .array (definitionsAmong list)),
        ("body", .array (nodesAmong list))] := by
  rw [items, definitionItems_eq_mapM htold, nodeItems_eq_nodes htold,
    parts_of_lists]

/-! ## What becomes of every item -/

theorem nodes_eq_mapM (items : List Json) : nodes items = items.mapM node := by
  induction items with
  | nil => rw [nodes]; rfl
  | cons item rest ih => rw [nodes, List.mapM_cons, ih]

/-- The properties that are not null are loaded one by one. -/
theorem collect_eq_mapM (tag : String) (entries : List (String × Json)) :
    props.collect tag entries =
      (entries.filter fun entry => !entry.2.isNull).mapM fun entry =>
        (propValue entry.2 ("Property '" ++ entry.1 ++ "' of " ++ tag)).map
          (Prod.mk entry.1) := by
  fun_induction props.collect tag entries with
  | case1 => rfl
  | case2 key rest ih =>
      rw [List.filter_cons_of_neg (by simp [Json.isNull])]
      exact ih
  | case3 key data rest hnull ih =>
      have hkept : data.isNull = false := by
        cases data with
        | null => exact absurd rfl hnull
        | bool _ | number _ | text _ | array _ | object _ => rfl
      rw [List.filter_cons_of_pos (by simp [hkept]), List.mapM_cons, ih]
      cases propValue data ("Property '" ++ key ++ "' of " ++ tag) with
      | error fault => rfl
      | ok value => rfl

theorem mapM_ensures_forall₂ {f : α → Load β} {holds : α → β → Prop}
    {values : List α} (hf : ∀ value ∈ values, Ensures (f value) (holds value)) :
    Ensures (values.mapM f) (List.Forall₂ holds values) := by
  induction values with
  | nil => exact Ensures.pure .nil
  | cons value rest ih =>
      obtain ⟨hvalue, hrest⟩ := List.forall_mem_cons.mp hf
      rw [List.mapM_cons]
      apply hvalue.bind
      intro first hfirst
      apply (ih hrest).bind
      intro others hothers
      exact Ensures.pure (.cons hfirst hothers)

theorem ensures_eq_ok (load : Load α) :
    Ensures load fun found => load = .ok found :=
  ⟨fun _ hfound => hfound⟩

/-- Every item of a list has become a definition or a node of the body, and
those of each sort stand in the order of their items. -/
structure Distributed (list : List Json) (program : Program) : Prop where
  definitions :
    List.Forall₂ (fun item found => definition item = .ok found)
      (definitionsAmong list) program.definitions
  body :
    List.Forall₂ (fun item found => node item = .ok found)
      (nodesAmong list) program.body

theorem Distributed.length_eq {list : List Json} {program : Program}
    (hprogram : Distributed list program) :
    program.definitions.length + program.body.length = list.length := by
  rw [← hprogram.definitions.length_eq, ← hprogram.body.length_eq]
  exact (List.length_eq_length_filter_add takesForDefinition).symm

private theorem definitionItems_told (list : List Json) :
    Ensures (definitionItems list) fun _ => ∀ item ∈ list,
      isDefinition item = .ok (takesForDefinition item) := by
  induction list with
  | nil => exact Ensures.pure (List.forall_mem_nil _)
  | cons item rest ih =>
      rw [definitionItems]
      apply (ensures_eq_ok _).bind
      intro found hfound
      have hitem : isDefinition item = .ok (takesForDefinition item) := by
        rw [takesForDefinition_of_eq_ok hfound, hfound]
      split
      next =>
        apply (ensures_true _).bind
        intro first _
        apply ih.bind
        intro others hrest
        exact Ensures.pure (List.forall_mem_cons.mpr ⟨hitem, hrest⟩)
      next =>
        constructor
        intro others hothers
        exact List.forall_mem_cons.mpr ⟨hitem, ih.of_eq_ok others hothers⟩

/-- What loading ensures of every single item holds of the definitions and of
the nodes of the body, item by item. -/
theorem items_ensures {list : List Json} {defines : Json → Definition → Prop}
    {describes : Json → Node → Prop}
    (hdefinition : ∀ item ∈ definitionsAmong list,
      Ensures (definition item) (defines item))
    (hnode : ∀ item ∈ nodesAmong list, Ensures (node item) (describes item)) :
    Ensures (items list) fun program =>
      List.Forall₂ defines (definitionsAmong list) program.definitions ∧
        List.Forall₂ describes (nodesAmong list) program.body := by
  cases hitems : definitionItems list with
  | error fault =>
      rw [items, hitems]
      exact Ensures.error
  | ok definitions =>
      have htold := (definitionItems_told list).of_eq_ok definitions hitems
      rw [items_eq_parts htold, parts_of_lists, nodes_eq_mapM]
      apply (mapM_ensures_forall₂ hdefinition).bind
      intro definitions hdefinitions
      apply (mapM_ensures_forall₂ hnode).bind
      intro body hbody
      exact Ensures.pure ⟨hdefinitions, hbody⟩

private theorem items_distributed (list : List Json) :
    Ensures (items list) (Distributed list) := by
  have hparts := items_ensures
    (fun item (_ : item ∈ definitionsAmong list) => ensures_eq_ok (definition item))
    (fun item (_ : item ∈ nodesAmong list) => ensures_eq_ok (node item))
  constructor
  intro program hprogram
  obtain ⟨hdefinitions, hbody⟩ := hparts.of_eq_ok program hprogram
  exact ⟨hdefinitions, hbody⟩

/-! ## Single objects -/

/-- The forms that data may be read in. -/
inductive Form.Reads : Json → Form → Prop
  | serialized (entries : List (String × Json)) :
      Reads (.object entries) (.serialized (.object entries))
  | parts (entries : List (String × Json)) :
      Reads (.object entries) (.parts entries)
  | single (entries : List (String × Json)) :
      Reads (.object entries) (.items [.object entries])
  | list (items : List Json) : Reads (.array items) (.items items)

theorem form_reads (data : Json) : Ensures (form data) (Form.Reads data) := by
  cases data with
  | object entries =>
      unfold form
      dsimp only
      split
      next => exact Ensures.pure (.serialized entries)
      next =>
        split
        next =>
          apply (ensures_true _).bind
          intro found _
          split
          next => exact Ensures.pure (.single entries)
          next => exact Ensures.pure (.parts entries)
        next => exact Ensures.pure (.single entries)
  | array items => exact Ensures.pure (.list items)
  | null | bool _ | number _ | text _ => exact Ensures.error

private theorem form_of_isDefinition {entries : List (String × Json)}
    (hkind : ((Json.object entries).field "kind").isText "app" = false)
    (hdefinition : isDefinition (.object entries) = .ok true) :
    form (.object entries) = .ok (.items [.object entries]) := by
  simp only [form, hkind, hdefinition]
  by_cases hparts :
      (Entries.has entries "body" || Entries.has entries "components") = true
  · rw [if_pos hparts]
    rfl
  · rw [if_neg hparts]
    rfl

private theorem form_of_no_parts {entries : List (String × Json)}
    (hkind : ((Json.object entries).field "kind").isText "app" = false)
    (hbody : Entries.has entries "body" = false)
    (hcomponents : Entries.has entries "components" = false) :
    form (.object entries) = .ok (.items [.object entries]) := by
  simp only [form, hkind, hbody, hcomponents]
  rfl

end Load

namespace Program

/-- The object that holds the definitions among items apart from the others. -/
def sortedItems (items : List Json) : Json :=
  .object
    [("components", .array (Load.definitionsAmong items)),
      ("body", .array (Load.nodesAmong items))]

/-- The forms in which a program is handed over agree.  A list of items whose
types are no lists or objects loads like the object that holds its definitions
and its other items apart, with the same program or the same error; and in the
program every item has become one definition or one node, in order.  An object
that is no serialized program and does not hold components or a body, or is a
definition itself, loads like the list of that one item. -/
theorem forms_load_alike :
    (∀ items : List Json,
      (∀ item ∈ items, (item.field "type").isScalar = true) →
        load (.array items) = load (sortedItems items) ∧
          ∀ program, load (.array items) = .ok program →
            Load.Distributed items program ∧
              program.definitions.length + program.body.length =
                items.length) ∧
    ∀ entries : List (String × Json),
      ((Json.object entries).field "kind").isText "app" = false →
      (Entries.has entries "body" = false ∧
          Entries.has entries "components" = false) ∨
        Load.isDefinition (.object entries) = .ok true →
      load (.object entries) = load (.array [.object entries]) := by
  constructor
  · intro items htypes
    have htold : ∀ item ∈ items,
        Load.isDefinition item = .ok (Load.takesForDefinition item) :=
      fun item hitem => Load.isDefinition_of_isScalar (htypes item hitem)
    have hlist : load (.array items) = Load.items items := load_of_items rfl
    have hsorted : load (sortedItems items) =
        Load.parts [("components", .array (Load.definitionsAmong items)),
          ("body", .array (Load.nodesAmong items))] := load_of_parts rfl
    refine ⟨by rw [hlist, hsorted, Load.items_eq_parts htold], ?_⟩
    intro program hprogram
    rw [hlist] at hprogram
    have hdistributed :=
      (Load.items_distributed items).of_eq_ok program hprogram
    exact ⟨hdistributed, hdistributed.length_eq⟩
  · intro entries hkind hone
    have hform : Load.form (.object entries) =
        .ok (.items [.object entries]) := by
      rcases hone with ⟨hbody, hcomponents⟩ | hdefinition
      · exact Load.form_of_no_parts hkind hbody hcomponents
      · exact Load.form_of_isDefinition hkind hdefinition
    rw [load_of_items hform]
    exact (load_of_items rfl).symm

/-- A definition that only its parameters and its body give away. -/
def untypedCard : List (String × Json) :=
  [("name", .text "Card"), ("params", .array [.text "title"]),
    ("body", .array [.object [("type", .text "Title")]])]

def cardItems : List Json :=
  [.object [("type", .text "Text"), ("props", .object [("text", .text "Cards")])],
    .object untypedCard,
    .object [("type", .text "If"), ("condition", .text "open")],
    .object [("kind", .text "component"), ("name", .text "Row")]]

theorem cardItems_load_alike :
    load (.array cardItems) = load (sortedItems cardItems) ∧
      (∃ program, load (.array cardItems) = .ok program ∧
        Load.Distributed cardItems program ∧
        program.definitions.map Definition.name = ["Card", "Row"] ∧
        program.body.map Node.label = ["Text", "if"]) ∧
      load (.object untypedCard) = load (.array [.object untypedCard]) := by
  obtain ⟨hlists, hobjects⟩ := forms_load_alike
  have htypes : ∀ item ∈ cardItems, (item.field "type").isScalar = true := by
    simp only [cardItems, List.forall_mem_cons]
    exact ⟨rfl, rfl, rfl, rfl, List.forall_mem_nil _⟩
  obtain ⟨hsorted, hprogram⟩ := hlists cardItems htypes
  exact ⟨hsorted, ⟨_, rfl, (hprogram _ rfl).1, rfl, rfl⟩,
    hobjects untypedCard rfl (.inr rfl)⟩

-- Definitions come first: the error of the second item is the one that counts.
example :
    load (.array [.null, .object [("type", .text "Component")]]) =
      .error (.notName "Component name" .null) := rfl

end Program
end ViewCompiler
