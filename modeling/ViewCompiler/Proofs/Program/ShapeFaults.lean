import ViewCompiler.Json.Field
import ViewCompiler.Proofs.Json.Printable
import ViewCompiler.Proofs.Program.Forms

/-!
# Where shape faults come from

Loading fails in two ways.  Most errors say which part of the data describes no
program; a shape fault says that data of the wrong type was gone through, looked
into or compared.  The second way is closed to data in which every object has
lists, objects and scalars where a parser puts them.  Nothing else is asked of
the data: names, expressions, values and serialized parts may be anything.  There
is one excuse: an error that shows an integer with too many digits cannot be
made.  No text holds such an integer, so it does not occur in data that is read.
-/

namespace ViewCompiler

namespace Json

/-- Every object in the data has the property. -/
inductive Throughout (holds : Json → Prop) : Json → Prop
  | null : Throughout holds .null
  | bool (b : Bool) : Throughout holds (.bool b)
  | number (n : Number) : Throughout holds (.number n)
  | text (s : String) : Throughout holds (.text s)
  | array {items : List Json}
      (hitems : ∀ item ∈ items, Throughout holds item) :
      Throughout holds (.array items)
  | object {entries : List (String × Json)} (hself : holds (.object entries))
      (hentries : ∀ entry ∈ entries, Throughout holds entry.2) :
      Throughout holds (.object entries)

/-- The datum is empty or a list. -/
def IsList (data : Json) : Prop :=
  data.isEmpty = true ∨ ∃ items, data = .array items

/-- The fields of an object have the types that a parser gives them.  A field
that is not there is null, and so it is empty. -/
structure ParserShaped (data : Json) : Prop where
  lists : ∀ key ∈ ["children", "params", "body", "components"],
    (data.field key).IsList
  props : (data.field "props").isEmpty = true ∨
    ∃ entries, data.field "props" = .object entries
  components : ∀ item ∈ data.items "components",
    ∃ entries, item = .object entries
  scalars : ∀ key ∈ ["type", "kind"], (data.field key).isScalar = true

theorem Throughout.isScalar_type {data : Json}
    (hdata : data.Throughout ParserShaped) :
    (data.field "type").isScalar = true := by
  cases hdata with
  | object hself _ => exact hself.scalars "type" (by simp)
  | null | bool _ | number _ | text _ | array _ => rfl

end Json

namespace Load

variable {α β : Type} {excuse : Prop}

/-- Loading does not end in a shape fault, unless there is the excuse that
something cannot be shown. -/
structure Faultless (excuse : Prop) (load : Load α) : Prop where
  of_shape : ∀ fault, load = .error (.shape fault) →
    fault = .unprintable ∧ excuse

namespace Faultless

theorem ok (value : α) : Faultless excuse (.ok value : Load α) := by
  constructor
  intro fault heq
  contradiction

theorem error {refusal : LoadError}
    (hrefusal : ∀ fault, refusal ≠ .shape fault) :
    Faultless excuse (.error refusal : Load α) := by
  constructor
  intro fault heq
  exact absurd (Except.error.inj heq) (hrefusal fault)

theorem bind {load : Load α} {next : α → Load β}
    (hload : Faultless excuse load)
    (hnext : ∀ value, load = .ok value → Faultless excuse (next value)) :
    Faultless excuse (load >>= next) := by
  cases load with
  | ok value => exact hnext value rfl
  | error refusal =>
      constructor
      intro fault heq
      exact hload.of_shape fault (congrArg Except.error (Except.error.inj heq))

theorem map {load : Load α} (hload : Faultless excuse load) (f : α → β) :
    Faultless excuse (load.map f) := by
  cases load with
  | ok value => exact ok (f value)
  | error refusal =>
      constructor
      intro fault heq
      exact hload.of_shape fault (congrArg Except.error (Except.error.inj heq))

theorem mapM {f : α → Load β} {values : List α}
    (hf : ∀ value ∈ values, Faultless excuse (f value)) :
    Faultless excuse (values.mapM f) := by
  induction values with
  | nil => exact ok []
  | cons value rest ih =>
      obtain ⟨hvalue, hrest⟩ := List.forall_mem_cons.mp hf
      rw [List.mapM_cons]
      apply hvalue.bind
      intro first _
      apply (ih hrest).bind
      intro others _
      exact ok (first :: others)

end Faultless

/-! ## Contents may be anything -/

/-- There is an excuse if the data cannot be shown. -/
def Excused (excuse : Prop) (data : Json) : Prop :=
  data.isPrintable = false → excuse

/-- What cannot be shown in a part cannot be shown in the whole. -/
theorem Excused.entry {entries : List (String × Json)}
    (hexcused : Excused excuse (.object entries)) {entry : String × Json}
    (hentry : entry ∈ entries) : Excused excuse entry.2 := by
  intro hpart
  apply hexcused
  rw [← Bool.not_eq_true, Json.isPrintable_object]
  intro hall
  rw [hall entry hentry] at hpart
  contradiction

theorem Excused.item {items : List Json}
    (hexcused : Excused excuse (.array items)) {item : Json}
    (hitem : item ∈ items) : Excused excuse item := by
  intro hpart
  apply hexcused
  rw [← Bool.not_eq_true, Json.isPrintable_array]
  intro hall
  rw [hall item hitem] at hpart
  contradiction

theorem Excused.field {data : Json} (hexcused : Excused excuse data)
    {key : String} {found : Json} (hfound : data.field? key = some found) :
    Excused excuse found := by
  cases data with
  | object entries =>
      exact hexcused.entry (Entries.mem_of_get?_eq_some hfound)
  | null | bool _ | number _ | text _ | array _ => contradiction

theorem excused_null : Excused excuse .null := by
  intro hunshown
  contradiction

theorem Excused.fieldD {data : Json} (hexcused : Excused excuse data)
    (key : String) {default : Json} (hdefault : Excused excuse default) :
    Excused excuse ((data.field? key).getD default) := by
  cases hfound : data.field? key with
  | none => exact hdefault
  | some found => exact hexcused.field hfound

theorem strict_faultless (read : Json → Option α) (data : Json) :
    Faultless excuse (strict read data) := by
  unfold strict
  cases read data with
  | none => exact .error (by simp)
  | some value => exact .ok value

theorem refuse_faultless {error : Json → LoadError}
    (herror : ∀ data fault, error data ≠ .shape fault) {data : Json}
    (hexcused : Excused excuse data) :
    Faultless excuse (refuse error data : Load α) := by
  unfold refuse
  split
  · exact .error (herror data)
  · rename_i hunshown
    constructor
    intro fault heq
    obtain rfl := LoadError.shape.inj (Except.error.inj heq)
    exact ⟨rfl, hexcused (Bool.eq_false_iff.mpr hunshown)⟩

theorem name_faultless {data : Json} (hexcused : Excused excuse data)
    (what : String) : Faultless excuse (name data what) := by
  have hrefuse : ∀ found, Excused excuse found →
      Faultless excuse (refuse (.notName what) found : Load String) :=
    fun found => refuse_faultless (by simp)
  have hfound : Excused excuse (unwrapName data) := by
    cases data with
    | object entries => exact hexcused.fieldD "value" excused_null
    | null | bool _ | number _ | text _ | array _ => exact hexcused
  unfold name
  dsimp only
  split
  next =>
    split
    next => exact hrefuse _ hfound
    next => exact .ok _
  next => exact hrefuse _ hfound

theorem expression_faultless {data : Json} (hexcused : Excused excuse data)
    (what : String) : Faultless excuse (expression data what) := by
  have hrefuse : ∀ found, Excused excuse found →
      Faultless excuse
        (refuse (.notExpression what) found : Load Expression) :=
    fun found => refuse_faultless (by simp)
  have hfound : Excused excuse (unwrapExpression data) := by
    cases data with
    | object entries =>
        exact hexcused.fieldD "value" (hexcused.fieldD "text" excused_null)
    | null | bool _ | number _ | text _ | array _ => exact hexcused
  unfold expression
  dsimp only
  split
  next =>
    split
    next => exact hrefuse _ hfound
    next => exact .ok _
  next => exact hrefuse _ hfound

theorem propValue_faultless {data : Json} (hexcused : Excused excuse data)
    (what : String) : Faultless excuse (propValue data what) := by
  have hliteral : ∀ found, Excused excuse found →
      Faultless excuse (propValue.literal what found) := by
    intro found hfound
    unfold propValue.literal
    split
    next => exact .ok _
    next => exact refuse_faultless (by simp) hfound
  unfold propValue
  split
  next =>
    split
    next => exact (expression_faultless hexcused what).map _
    next => exact hliteral _ (hexcused.fieldD "value" hexcused)
  next => exact hliteral _ hexcused

private theorem collect_faultless {entries : List (String × Json)}
    (hexcused : Excused excuse (.object entries)) (tag : String) :
    Faultless excuse (props.collect tag entries) := by
  rw [collect_eq_mapM]
  apply Faultless.mapM
  intro entry hentry
  have hmem := (List.mem_filter.mp hentry).1
  exact (propValue_faultless (hexcused.entry hmem) _).map _

private theorem parameter_faultless {data : Json}
    (hexcused : Excused excuse data) :
    Faultless excuse (parameter data) := by
  have hnamed : ∀ (given : Json) (default : Option PropValue),
      Excused excuse given →
      Faultless excuse (do
        let name ← name given "Parameter"
        return ({ name, default } : Parameter)) := by
    intro given default hgiven
    apply (name_faultless hgiven _).bind
    intro name _
    exact .ok _
  have hname : Excused excuse
      ((data.field? "name").getD (data.field "value")) :=
    hexcused.fieldD "name" (hexcused.fieldD "value" excused_null)
  unfold parameter
  split
  next =>
    dsimp only
    split
    next => exact hnamed _ none hname
    next =>
      have hdefault := hexcused.fieldD "default" excused_null
      apply ((propValue_faultless hdefault _).map _).bind
      intro default _
      exact hnamed _ default hname
  next => exact (name_faultless hexcused _).map _

/-! ## Fields that are gone through -/

theorem iterate_of_isList {data : Json} (hdata : data.IsList) :
    ∃ items, iterate data = .ok items ∧ (items = [] ∨ data = .array items) := by
  rcases hdata with hempty | ⟨items, rfl⟩
  · exact ⟨[], by simp only [iterate, hempty, if_true], .inl rfl⟩
  · exact ⟨items, iterate_array items, .inr rfl⟩

private theorem props_faultless {data : Json}
    (hdata : data.isEmpty = true ∨ ∃ entries, data = .object entries)
    (hexcused : Excused excuse data) (tag : String) :
    Faultless excuse (props data tag) := by
  unfold props
  split
  next => exact .ok _
  next hfull =>
    rcases hdata with hempty | ⟨entries, rfl⟩
    · exact absurd hempty hfull
    · exact collect_faultless hexcused tag

private theorem assemble_faultless {data : Json} (hdata : data.ParserShaped)
    (hexcused : Excused excuse data) (children : List Node) :
    Faultless excuse (assemble data children) := by
  have hfield := fun key => hexcused.fieldD key excused_null
  unfold assemble
  dsimp only
  split
  next =>
    apply (expression_faultless (hfield "condition") _).bind
    intro condition _
    exact .ok _
  next =>
    split
    next =>
      apply (name_faultless (hfield "item") _).bind
      intro item _
      have hsource := hexcused.fieldD "list" (hfield "source")
      apply (expression_faultless hsource _).bind
      intro source _
      exact .ok _
    next =>
      apply (name_faultless (hfield "type") _).bind
      intro tag _
      apply (props_faultless hdata.props (hfield "props") tag).bind
      intro found _
      exact .ok _

mutual

private theorem node_faultless :
    ∀ {data : Json}, data.Throughout Json.ParserShaped →
      Excused excuse data → Faultless excuse (node data)
  | .object entries, hdata, hexcused => by
      obtain ⟨hself, hentries⟩ : (Json.object entries).ParserShaped ∧
          ∀ entry ∈ entries, entry.2.Throughout Json.ParserShaped := by
        cases hdata with
        | object hself hentries => exact ⟨hself, hentries⟩
      have hkind : scalar ((Entries.get? entries "kind").getD .null) = .ok () :=
        scalar_of_isScalar (hself.scalars "kind" (by simp))
      rw [node, hkind]
      apply (Faultless.ok ()).bind
      intro _ _
      split
      next => exact strict_faultless _ _
      next =>
        apply (nodeField_faultless "children" hentries
          (hself.lists "children" (by simp))
          (fun entry hentry => hexcused.entry hentry)).bind
        intro children _
        exact assemble_faultless hself hexcused children
  | .null, _, _ | .bool _, _, _ | .number _, _, _ | .text _, _, _
  | .array _, _, _ => by
      rw [node]
      · exact .error (by simp)
      · simp

theorem nodeField_faultless (key : String) :
    ∀ {entries : List (String × Json)},
      (∀ entry ∈ entries, entry.2.Throughout Json.ParserShaped) →
      ((Json.object entries).field key).IsList →
      (∀ entry ∈ entries, Excused excuse entry.2) →
      Faultless excuse (nodeField key entries)
  | [], _, _, _ => by
      rw [nodeField]
      exact .ok []
  | (found, value) :: rest, hentries, hlist, hexcused => by
      obtain ⟨hvalue, hrest⟩ := List.forall_mem_cons.mp hentries
      obtain ⟨hfirst, hothers⟩ := List.forall_mem_cons.mp hexcused
      rw [nodeField]
      by_cases hfound : found = key
      · have hthis : (Json.object ((found, value) :: rest)).field key = value := by
          rw [Json.field, Json.field?, Entries.get?, if_pos hfound]
          rfl
        rw [if_pos hfound]
        rw [hthis] at hlist
        exact nodeList_faultless hvalue hlist hfirst
      · have hthat : (Json.object ((found, value) :: rest)).field key =
            (Json.object rest).field key := by
          rw [Json.field, Json.field?, Entries.get?, if_neg hfound]
          rfl
        rw [if_neg hfound]
        rw [hthat] at hlist
        exact nodeField_faultless key hrest hlist hothers

private theorem nodeList_faultless : ∀ {data : Json},
    data.Throughout Json.ParserShaped → data.IsList → Excused excuse data →
    Faultless excuse (nodeList data)
  | .array items, hdata, _, hexcused => by
      rw [nodeList]
      refine nodes_faultless ?_ fun item hitem => hexcused.item hitem
      cases hdata with
      | array hitems => exact hitems
  | .null, _, hlist, _ | .bool _, _, hlist, _ | .number _, _, hlist, _
  | .text _, _, hlist, _ | .object _, _, hlist, _ => by
      obtain ⟨items, hiterate, hempty | harray⟩ := iterate_of_isList hlist
      · rw [nodeList]
        · rw [hiterate, hempty]
          exact .ok []
        · simp
      · contradiction

theorem nodes_faultless : ∀ {items : List Json},
    (∀ item ∈ items, item.Throughout Json.ParserShaped) →
    (∀ item ∈ items, Excused excuse item) →
    Faultless excuse (nodes items)
  | [], _, _ => by
      rw [nodes]
      exact .ok []
  | item :: rest, hitems, hexcused => by
      obtain ⟨hitem, hrest⟩ := List.forall_mem_cons.mp hitems
      obtain ⟨hfirst, hothers⟩ := List.forall_mem_cons.mp hexcused
      rw [nodes]
      apply (node_faultless hitem hfirst).bind
      intro first _
      apply (nodes_faultless hrest hothers).bind
      intro others _
      exact .ok (first :: others)

end

/-! ## Definitions and programs -/

theorem definition_faultless {entries : List (String × Json)}
    (hdata : (Json.object entries).Throughout Json.ParserShaped)
    (hexcused : Excused excuse (.object entries)) :
    Faultless excuse (definition (.object entries)) := by
  cases hdata with
  | object hself hentries =>
      unfold definition
      dsimp only
      split
      next => exact strict_faultless _ _
      next =>
        have hfield := fun key => hexcused.fieldD key excused_null
        obtain ⟨params, hparams, hlist⟩ :=
          iterate_of_isList (hself.lists "params" (by simp))
        have hparameters : ∀ item ∈ params, Excused excuse item := by
          rcases hlist with rfl | harray
          · exact List.forall_mem_nil _
          · have hgiven := hfield "params"
            change Excused excuse ((Json.object entries).field "params") at hgiven
            rw [harray] at hgiven
            exact fun item hitem => hgiven.item hitem
        apply (name_faultless (hfield "name") _).bind
        intro name _
        rw [hparams]
        apply (Faultless.ok params).bind
        intro given hgiven
        cases hgiven
        apply (Faultless.mapM fun item hitem =>
          parameter_faultless (hparameters item hitem)).bind
        intro params _
        apply (nodeField_faultless "body" hentries
          (hself.lists "body" (by simp))
          (fun entry hentry => hexcused.entry hentry)).bind
        intro body _
        exact .ok _

private theorem parts_faultless {entries : List (String × Json)}
    (hdata : (Json.object entries).Throughout Json.ParserShaped)
    (hexcused : Excused excuse (.object entries)) :
    Faultless excuse (parts entries) := by
  cases hdata with
  | object hself hentries =>
      have hcomponents := Json.field_of_forall .null hentries "components"
      obtain ⟨given, hgiven, hitems⟩ :=
        iterate_of_isList (hself.lists "components" (by simp))
      have hparts : Excused excuse ((Json.object entries).field "components") :=
        hexcused.fieldD "components" excused_null
      have hdefinitions : Faultless excuse (given.mapM definition) := by
        rcases hitems with rfl | harray
        · exact .ok []
        · have hlist : (Json.object entries).items "components" = given := by
            rw [Json.items, harray]
          rw [harray] at hcomponents hparts
          cases hcomponents with
          | array hinner =>
              apply Faultless.mapM
              intro item hitem
              obtain ⟨fields, rfl⟩ := hself.components item (hlist ▸ hitem)
              exact definition_faultless (hinner _ hitem) (hparts.item hitem)
      change Faultless excuse (iterate ((Json.object entries).field "components") >>= _)
      rw [hgiven]
      apply (Faultless.ok given).bind
      intro items hitems
      cases hitems
      apply hdefinitions.bind
      intro definitions _
      apply (nodeField_faultless "body" hentries
        (hself.lists "body" (by simp))
        (fun entry hentry => hexcused.entry hentry)).bind
      intro body _
      exact .ok _

theorem items_faultless {list : List Json}
    (hlist : ∀ item ∈ list, item.Throughout Json.ParserShaped)
    (hexcused : ∀ item ∈ list, Excused excuse item) :
    Faultless excuse (items list) := by
  have htold : ∀ item ∈ list,
      isDefinition item = .ok (takesForDefinition item) :=
    fun item hitem => isDefinition_of_isScalar (hlist item hitem).isScalar_type
  rw [items_eq_parts htold, parts_of_lists]
  apply Faultless.bind
  · apply Faultless.mapM
    intro item hitem
    obtain ⟨hmem, htaken⟩ := List.mem_filter.mp hitem
    -- Only objects are taken for definitions.
    cases item with
    | object entries =>
        exact definition_faultless (hlist _ hmem) (hexcused _ hmem)
    | null | bool _ | number _ | text _ | array _ => contradiction
  · intro definitions _
    have hnodes : Faultless excuse (nodes (nodesAmong list)) :=
      nodes_faultless
        (fun item hitem => hlist item (List.mem_filter.mp hitem).1)
        (fun item hitem => hexcused item (List.mem_filter.mp hitem).1)
    apply hnodes.bind
    intro body _
    exact .ok _

private theorem form_faultless {data : Json}
    (hdata : data.Throughout Json.ParserShaped) :
    Faultless excuse (form data) := by
  cases data with
  | object entries =>
      have htold := isDefinition_of_isScalar hdata.isScalar_type
      unfold form
      dsimp only
      split
      next => exact .ok _
      next =>
        split
        next =>
          rw [htold]
          apply (Faultless.ok _).bind
          intro found _
          split
          next => exact .ok _
          next => exact .ok _
        next => exact .ok _
  | array list => exact .ok _
  | null | bool _ | number _ | text _ => exact .error (by simp)

end Load

namespace Program

private theorem load_faultless {data : Json}
    (hdata : data.Throughout Json.ParserShaped) :
    Load.Faultless (data.isPrintable = false) (load data) := by
  have hexcused : Load.Excused (data.isPrintable = false) data := id
  unfold load loadLogged
  apply Load.Faultless.map
  apply (Load.form_faultless hdata).bind
  intro form hform
  have hreads := (Load.form_reads data).of_eq_ok form hform
  cases hreads with
  | serialized entries =>
      apply (Load.strict_faultless _ _).bind
      intro program _
      exact .ok _
  | parts entries =>
      apply (Load.parts_faultless hdata hexcused).bind
      intro program _
      exact .ok _
  | single entries =>
      apply (Load.items_faultless (List.forall_mem_singleton.mpr hdata)
        (List.forall_mem_singleton.mpr hexcused)).bind
      intro program _
      exact .ok _
  | list items =>
      cases hdata with
      | array hitems =>
          apply (Load.items_faultless hitems
            (fun item hitem => hexcused.item hitem)).bind
          intro program _
          exact .ok _

/-- A definition whose parameters and body are empty without being lists. -/
def looseCard : Json :=
  .object [("name", .text "Card"), ("params", .text ""), ("body", .bool false)]

/-- A serialized element whose tag is a number. -/
def misnamedElement : Json :=
  .object [("kind", .text "element"), ("tag", .number (.int 3))]

def looseOutput : Json :=
  .object
    [("components", .array [looseCard]), ("body", .array [misnamedElement])]

/-- A number that cannot be shown is no type, and no error can say so. -/
theorem load_of_unprintable_type {n : Number}
    (hunshown : (Json.number n).isPrintable = false) :
    load (.object [("type", .number n)]) = .error (.shape .unprintable) := by
  have hname : Load.name (.number n) "Node type" =
      .error (.shape .unprintable) :=
    if_neg (Bool.eq_false_iff.mp hunshown)
  have hnode : Load.node (.object [("type", .number n)]) =
      .error (.shape .unprintable) := by
    change (Load.name (.number n) "Node type" >>= fun tag => _) = _
    rw [hname]
    rfl
  rw [load_of_items rfl]
  change (Load.node (.object [("type", .number n)]) >>= fun node => _) >>= _ = _
  rw [hnode]
  rfl

example : (Json.number (.int (Nat.pow 10 4300))).isPrintable = false := by
  decide +kernel

-- A truth value where the children should be is gone through in vain.
example :
    load (.object [("type", .text "Row"), ("children", .bool true)]) =
      .error (.shape (.noItems "bool")) := rfl

end Program
end ViewCompiler
