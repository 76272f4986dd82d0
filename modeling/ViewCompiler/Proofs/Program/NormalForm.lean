import ViewCompiler.Json.Field
import ViewCompiler.Proofs.Name
import ViewCompiler.Proofs.Program.Forms
import ViewCompiler.Proofs.Program.Places
import ViewCompiler.Proofs.Usage

/-!
# Loaded programs are in normal form

Parser output says the same thing in several ways: a name may be wrapped in an
object, an expression may be a text or an object with a value or a text, and a
literal may carry its type.  The relations below say which data describes which
part of a program, with the children, the properties and the parameters one by
one in their order.

What is loaded from data without serialized parts is described by it.  The
normal form follows from the description alone: every expression is what its
own text denotes, every name is non-empty, and every value is a literal or such
an expression.
-/

namespace ViewCompiler

/-- An expression that is what its text denotes, with no white space around it;
the kind then says whether there is a root. -/
structure Expression.IsNormal (expression : Expression) : Prop where
  text_ne : expression.text ≠ ""
  first : ∀ c ∈ expression.text.toList.head?, Text.isBlank c = false
  last : ∀ c ∈ expression.text.toList.getLast?, Text.isBlank c = false
  of_text : Expression.of expression.text = expression
  identifier_iff : expression.kind = .identifier ↔ expression.root ≠ none
  root_iff : expression.root ≠ none ↔ expression.isPath = true

theorem Expression.isNormal_of {text : String} (htext : Text.trim text ≠ "") :
    (Expression.of text).IsNormal := by
  have htrimmed := Text.isTrimmed_trim text
  have hagain : Text.trim (Text.trim text) = Text.trim text := by
    simpa [Text.isTrimmed] using htrimmed
  obtain ⟨hfirst, hlast⟩ := Text.isTrimmed_iff.mp htrimmed
  refine ⟨htext, hfirst, hlast, ?_, ?_, ?_⟩
  · simp only [Expression.of, hagain]
  · by_cases hpath : Name.isPath (Text.trim text) = true
    · simp [Expression.of, Expression.root, hpath]
    · simp [Expression.of, Expression.root, hpath]
  · by_cases hpath : Name.isPath (Text.trim text) = true
    · simp [Expression.of, Expression.root, Expression.isPath, hpath]
    · simp [Expression.of, Expression.root, Expression.isPath, hpath]

/-! ## What data describes -/

namespace Json

/-- The items of a list; other data has none. -/
def listed : Json → List Json
  | .array items => items
  | _ => []

inductive GivesName : Json → String → Prop
  | text {name : String} (hname : name ≠ "") : GivesName (.text name) name
  | wrapped {entries : List (String × Json)} {name : String}
      (hname : name ≠ "")
      (hvalue : Entries.get? entries "value" = some (.text name)) :
      GivesName (.object entries) name

inductive GivesExpression : Json → Expression → Prop
  | text {text : String} (htext : Text.trim text ≠ "") :
      GivesExpression (.text text) (.of text)
  | value {entries : List (String × Json)} {text : String}
      (htext : Text.trim text ≠ "")
      (hvalue : Entries.get? entries "value" = some (.text text)) :
      GivesExpression (.object entries) (.of text)
  | wrapped {entries : List (String × Json)} {text : String}
      (htext : Text.trim text ≠ "")
      (hvalue : Entries.get? entries "value" = none)
      (hfound : Entries.get? entries "text" = some (.text text)) :
      GivesExpression (.object entries) (.of text)

inductive GivesValue : Json → PropValue → Prop
  | literal (value : Literal) : GivesValue value.serialize (.literal value)
  | wrapped {entries : List (String × Json)} (value : Literal)
      (hplain : Load.isExpression (.object entries) = false)
      (hvalue : Entries.get? entries "value" = some value.serialize) :
      GivesValue (.object entries) (.literal value)
  | expression {entries : List (String × Json)} {e : Expression}
      (hmarked : Load.isExpression (.object entries) = true)
      (hgives : GivesExpression (.object entries) e) :
      GivesValue (.object entries) (.expression e)

/-- The properties are the entries of the object that are not null, each under
its name and in order. -/
def GivesProps (data : Json) (props : Props) : Prop :=
  List.Forall₂ (fun entry prop => prop.1 = entry.1 ∧ entry.2.GivesValue prop.2)
    (data.entries.filter fun entry => !entry.2.isNull) props

/-- The data describes the node, and its children one by one those inside it. -/
inductive Describes : Json → Node → Prop
  | conditional {data : Json} {condition : Expression} {children : List Node}
      (htype : data.field "type" = .text "If")
      (hcondition : (data.field "condition").GivesExpression condition)
      (hchildren :
        List.Forall₂ Describes (data.field "children").listed children) :
      Describes data (.conditional condition children)
  | loop {data : Json} {item : String} {source : Expression}
      {children : List Node}
      (htype : data.field "type" = .text "For")
      (hitem : (data.field "item").GivesName item)
      (hsource : ((data.field? "list").getD
        (data.field "source")).GivesExpression source)
      (hchildren :
        List.Forall₂ Describes (data.field "children").listed children) :
      Describes data (.loop item source children)
  | element {data : Json} {tag : String} {props : Props} {children : List Node}
      (hif : data.field "type" ≠ .text "If")
      (hfor : data.field "type" ≠ .text "For")
      (htag : (data.field "type").GivesName tag)
      (hprops : (data.field "props").GivesProps props)
      (hchildren :
        List.Forall₂ Describes (data.field "children").listed children) :
      Describes data (.element tag props children)

inductive GivesParameter : Json → Parameter → Prop
  | text {name : String} (hname : name ≠ "") :
      GivesParameter (.text name) { name }
  | plain {data : Json} {name : String}
      (hname : ((data.field? "name").getD (data.field "value")).GivesName name)
      (hdefault : data.field "default" = .null) : GivesParameter data { name }
  | withDefault {data : Json} {name : String} {default : PropValue}
      (hname : ((data.field? "name").getD (data.field "value")).GivesName name)
      (hdefault : (data.field "default").GivesValue default) :
      GivesParameter data { name, default := some default }

/-- The data describes the definition; its parameters are what going through
their field yields. -/
structure DescribesDefinition (data : Json) (definition : Definition) :
    Prop where
  name : (data.field "name").GivesName definition.name
  params : ∃ given, Load.iterate (data.field "params") = .ok given ∧
    List.Forall₂ GivesParameter given definition.params
  body : List.Forall₂ Describes (data.field "body").listed definition.body

/-- The data describes the program in one of the forms that hold no serialized
program. -/
inductive DescribesProgram (data : Json) (program : Program) : Prop
  | parts {entries : List (String × Json)}
      (hform : Load.form data = .ok (.parts entries))
      (hdefinitions : List.Forall₂ DescribesDefinition
        ((Json.object entries).field "components").listed program.definitions)
      (hbody : List.Forall₂ Describes
        ((Json.object entries).field "body").listed program.body)
  | items {list : List Json}
      (hform : Load.form data = .ok (.items list))
      (hdefinitions : List.Forall₂ DescribesDefinition
        (Load.definitionsAmong list) program.definitions)
      (hbody : List.Forall₂ Describes (Load.nodesAmong list) program.body)

theorem get?_of_field_eq {entries : List (String × Json)} {key : String}
    {found : Json} (hfound : (Json.object entries).field key = found)
    (hnull : found ≠ .null) : Entries.get? entries key = some found := by
  rw [Json.field, Json.field?] at hfound
  cases hget : Entries.get? entries key with
  | none =>
      rw [hget] at hfound
      exact absurd hfound.symm hnull
  | some value =>
      rw [hget] at hfound
      exact congrArg some hfound

theorem Unserialized.of_mem_listed {data : Json} (hdata : data.Unserialized) :
    ∀ item ∈ data.listed, item.Unserialized := by
  cases hdata with
  | array hitems => exact hitems
  | _ => exact List.forall_mem_nil _

theorem isText_eq_true_iff {data : Json} {expected : String} :
    data.isText expected = true ↔ data = .text expected := by
  cases data <;> simp [isText]

end Json

/-! ## Loading what is described -/

namespace Load

theorem name_gives (data : Json) (what : String) :
    Ensures (name data what) data.GivesName := by
  unfold name
  dsimp only
  split
  next text htext =>
    split
    next => exact Ensures.refuse
    next hname =>
      have hne : text ≠ "" := by simpa using hname
      apply Ensures.pure
      cases data with
      | object entries =>
          exact .wrapped hne (Json.get?_of_field_eq htext (by simp))
      | text s =>
          obtain rfl := Json.text.inj htext
          exact .text hne
      | null | bool _ | number _ | array _ => contradiction
  next => exact Ensures.refuse

theorem expression_gives (data : Json) (what : String) :
    Ensures (expression data what) data.GivesExpression := by
  unfold expression
  dsimp only
  split
  next text htext =>
    split
    next => exact Ensures.refuse
    next hblank =>
      have hne : Text.trim text ≠ "" := by simpa using hblank
      apply Ensures.pure
      cases data with
      | object entries =>
          rw [unwrapExpression, Json.field?] at htext
          cases hvalue : Entries.get? entries "value" with
          | none =>
              rw [hvalue] at htext
              exact .wrapped hne hvalue (Json.get?_of_field_eq htext (by simp))
          | some found =>
              rw [hvalue] at htext
              exact .value hne (hvalue.trans (congrArg some htext))
      | text s =>
          obtain rfl := Json.text.inj htext
          exact .text hne
      | null | bool _ | number _ | array _ => simp [unwrapExpression] at htext
  next => exact Ensures.refuse

private theorem serialize_of_deserialize {data : Json} {value : Literal}
    (hvalue : Literal.deserialize data = some value) :
    data = value.serialize := by
  cases data with
  | bool b => cases hvalue; rfl
  | number n => cases hvalue; rfl
  | text s => cases hvalue; rfl
  | null | array _ | object _ => contradiction

theorem literal_gives (what : String) (data : Json) :
    Ensures (propValue.literal what data)
      fun found => ∃ value, found = .literal value ∧ data = value.serialize := by
  unfold propValue.literal
  split
  next value hvalue =>
    exact Ensures.pure ⟨value, rfl, serialize_of_deserialize hvalue⟩
  next => exact Ensures.refuse

theorem propValue_gives (data : Json) (what : String) :
    Ensures (propValue data what) data.GivesValue := by
  unfold propValue
  split
  next entries =>
    split
    next hmarked =>
      apply (expression_gives _ what).map
      intro e he
      exact .expression hmarked he
    next hplain =>
      constructor
      intro found hfound
      obtain ⟨value, rfl, hvalue⟩ :=
        (literal_gives what _).of_eq_ok found hfound
      rw [Json.field?] at hvalue
      cases hget : Entries.get? entries "value" with
      | none =>
          -- An object without a value is no literal itself.
          rw [hget] at hvalue
          cases value <;> contradiction
      | some inner =>
          rw [hget] at hvalue
          exact .wrapped value (by simpa using hplain)
            (hget.trans (congrArg some hvalue))
  next =>
    constructor
    intro found hfound
    obtain ⟨value, rfl, hvalue⟩ := (literal_gives what _).of_eq_ok found hfound
    rw [hvalue]
    exact .literal value

private theorem collect_gives (tag : String) (entries : List (String × Json)) :
    Ensures (props.collect tag entries)
      (List.Forall₂
        (fun entry prop => prop.1 = entry.1 ∧ entry.2.GivesValue prop.2)
        (entries.filter fun entry => !entry.2.isNull)) := by
  rw [collect_eq_mapM]
  apply mapM_ensures_forall₂
  intro entry _
  apply (propValue_gives entry.2 _).map
  intro value hvalue
  exact ⟨rfl, hvalue⟩

private theorem props_gives (data : Json) (tag : String) :
    Ensures (props data tag) data.GivesProps := by
  unfold props
  split
  next hempty =>
    apply Ensures.pure
    have hentries : data.entries = [] := by
      cases data with
      | object entries => exact List.isEmpty_iff.mp hempty
      | null | bool _ | number _ | text _ | array _ => rfl
    rw [Json.GivesProps, hentries]
    exact .nil
  next =>
    cases data with
    | object entries => exact collect_gives tag entries
    | null | bool _ | number _ | text _ | array _ => exact Ensures.error

private theorem assemble_describes (data : Json) {children : List Node}
    (hchildren :
      List.Forall₂ Json.Describes (data.field "children").listed children) :
    Ensures (assemble data children) data.Describes := by
  unfold assemble
  dsimp only
  split
  next hif =>
    apply (expression_gives _ _).bind
    intro condition hcondition
    exact Ensures.pure (.conditional (Json.isText_eq_true_iff.mp hif)
      hcondition hchildren)
  next hif =>
    split
    next hfor =>
      apply (name_gives _ _).bind
      intro item hitem
      apply (expression_gives _ _).bind
      intro source hsource
      exact Ensures.pure (.loop (Json.isText_eq_true_iff.mp hfor) hitem hsource
        hchildren)
    next hfor =>
      apply (name_gives _ _).bind
      intro tag htag
      apply (props_gives _ _).bind
      intro found hfound
      rw [Json.isText_eq_true_iff] at hif hfor
      exact Ensures.pure (.element hif hfor htag hfound hchildren)

mutual

theorem node_describes : ∀ {data : Json}, data.Unserialized →
    Ensures (node data) data.Describes
  | .object entries, hdata => by
      have hkind : isNodeKind ((Entries.get? entries "kind").getD .null) =
          false := by
        rw [isNodeKind, hdata.isText_kind (by decide),
          hdata.isText_kind (by decide), hdata.isText_kind (by decide)]
        rfl
      have hentries : ∀ entry ∈ entries, entry.2.Unserialized := by
        cases hdata with
        | object _ hentries => exact hentries
      rw [node]
      apply (ensures_true _).bind
      intro _ _
      rw [hkind]
      apply (nodeField_describes "children" hentries).bind
      intro children hchildren
      exact assemble_describes _ hchildren
  | .null, _ | .bool _, _ | .number _, _ | .text _, _ | .array _, _ => by
      rw [node]
      · exact Ensures.error
      · simp

theorem nodeField_describes (key : String) :
    ∀ {entries : List (String × Json)},
      (∀ entry ∈ entries, entry.2.Unserialized) →
      Ensures (nodeField key entries)
        (List.Forall₂ Json.Describes ((Json.object entries).field key).listed)
  | [], _ => by
      rw [nodeField]
      exact Ensures.pure .nil
  | (found, value) :: rest, hentries => by
      obtain ⟨hvalue, hrest⟩ := List.forall_mem_cons.mp hentries
      rw [nodeField, Json.field, Json.field?, Entries.get?]
      by_cases hfound : found = key
      · rw [if_pos hfound, if_pos hfound]
        exact nodeList_describes hvalue
      · rw [if_neg hfound, if_neg hfound]
        exact nodeField_describes key hrest

private theorem nodeList_describes : ∀ {data : Json}, data.Unserialized →
    Ensures (nodeList data) (List.Forall₂ Json.Describes data.listed)
  | .array items, hdata => by
      rw [nodeList]
      apply nodes_describes
      cases hdata with
      | array hitems => exact hitems
  | .null, _ | .bool _, _ | .number _, _ | .text _, _ | .object _, _ => by
      rw [nodeList]
      · apply (ensures_true _).bind
        intro items _
        cases items with
        | nil => exact Ensures.pure .nil
        | cons first rest => exact Ensures.error
      · simp

theorem nodes_describes : ∀ {items : List Json},
    (∀ item ∈ items, item.Unserialized) →
    Ensures (nodes items) (List.Forall₂ Json.Describes items)
  | [], _ => by
      rw [nodes]
      exact Ensures.pure .nil
  | item :: rest, hitems => by
      obtain ⟨hitem, hrest⟩ := List.forall_mem_cons.mp hitems
      rw [nodes]
      apply (node_describes hitem).bind
      intro first hfirst
      apply (nodes_describes hrest).bind
      intro others hothers
      exact Ensures.pure (.cons hfirst hothers)

end

/-! ## Definitions and programs -/

private theorem default_gives (data : Json) (what : String) :
    Ensures ((propValue data what).map some)
      fun found => ∃ value, found = some value ∧ data.GivesValue value := by
  apply (propValue_gives data what).map
  intro value hvalue
  exact ⟨value, rfl, hvalue⟩

private theorem parameter_gives (data : Json) :
    Ensures (parameter data) data.GivesParameter := by
  unfold parameter
  split
  next =>
    dsimp only
    split
    next hnull =>
      apply (name_gives _ _).bind
      intro name hname
      exact Ensures.pure (.plain hname hnull)
    next =>
      apply (default_gives _ _).bind
      rintro _ ⟨default, rfl, hdefault⟩
      apply (name_gives _ _).bind
      intro name hname
      exact Ensures.pure (.withDefault hname hdefault)
  next hplain =>
    apply (name_gives _ _).map
    intro name hname
    cases hname with
    | text hname => exact .text hname
    | wrapped _ _ => exact absurd rfl (hplain _)

theorem definition_describes {data : Json} (hdata : data.Unserialized) :
    Ensures (definition data) data.DescribesDefinition := by
  cases hdata with
  | object hkinds hentries =>
      rename_i entries
      have hkind : ((Json.object entries).field "kind").isText "component" =
          false :=
        (Json.Unserialized.object hkinds hentries).isText_kind (by decide)
      simp only [definition, hkind]
      apply (name_gives _ _).bind
      intro name hname
      apply (ensures_eq_ok _).bind
      intro given hgiven
      apply (mapM_ensures_forall₂ fun item _ => parameter_gives item).bind
      intro params hparams
      apply (nodeField_describes "body" hentries).bind
      intro body hbody
      exact Ensures.pure ⟨hname, ⟨given, hgiven, hparams⟩, hbody⟩
  | _ => exact Ensures.error

/-- Going through other data than a list yields texts. -/
theorem iterate_listed (data : Json) :
    Ensures (iterate data) fun given =>
      given = data.listed ∨
        data.listed = [] ∧ ∀ item ∈ given, ∃ text, item = .text text := by
  unfold iterate
  split
  next hempty =>
    apply Ensures.pure
    cases data with
    | array items => exact Or.inl (List.isEmpty_iff.mp hempty).symm
    | null | bool _ | number _ | text _ | object _ => exact Or.inl rfl
  next =>
    cases data with
    | array items => exact Ensures.pure (Or.inl rfl)
    | text s =>
        apply Ensures.pure
        refine Or.inr ⟨rfl, ?_⟩
        intro item hitem
        obtain ⟨c, _, rfl⟩ := List.mem_map.mp hitem
        exact ⟨_, rfl⟩
    | object entries =>
        apply Ensures.pure
        refine Or.inr ⟨rfl, ?_⟩
        intro item hitem
        obtain ⟨key, _, rfl⟩ := List.mem_map.mp hitem
        exact ⟨_, rfl⟩
    | null | bool _ | number _ => exact Ensures.error

/-- No text is a definition, so definitions come from a list. -/
theorem mapM_definition_describes {data : Json} {given : List Json}
    (hdata : data.Unserialized)
    (hlisted : given = data.listed ∨
      data.listed = [] ∧ ∀ item ∈ given, ∃ text, item = .text text) :
    Ensures (given.mapM definition)
      (List.Forall₂ Json.DescribesDefinition data.listed) := by
  rcases hlisted with rfl | ⟨hnone, htexts⟩
  · exact mapM_ensures_forall₂ fun item hitem =>
      definition_describes (hdata.of_mem_listed item hitem)
  · rw [hnone]
    cases given with
    | nil => exact Ensures.pure .nil
    | cons item rest =>
        obtain ⟨text, rfl⟩ := htexts item List.mem_cons_self
        rw [List.mapM_cons]
        exact Ensures.error

private theorem parts_describes {entries : List (String × Json)}
    (hentries : ∀ entry ∈ entries, entry.2.Unserialized) :
    Ensures (parts entries) fun program =>
      List.Forall₂ Json.DescribesDefinition
          ((Json.object entries).field "components").listed
          program.definitions ∧
        List.Forall₂ Json.Describes
          ((Json.object entries).field "body").listed program.body := by
  have hcomponents := Json.field_of_forall .null hentries "components"
  unfold parts
  apply (iterate_listed _).bind
  intro given hgiven
  apply (mapM_definition_describes hcomponents hgiven).bind
  intro definitions hdefinitions
  apply (nodeField_describes "body" hentries).bind
  intro body hbody
  exact Ensures.pure ⟨hdefinitions, hbody⟩

end Load

namespace Program

/-- What is loaded from unserialized data is described by the data. -/
theorem load_describes {data : Json} (hdata : data.Unserialized) :
    Load.Ensures (load data) data.DescribesProgram := by
  cases hform : Load.form data with
  | error fault =>
      have hload : load data = .error fault := by
        rw [load, loadLogged, hform]
        rfl
      rw [hload]
      exact Load.Ensures.error
  | ok form =>
      have hunserialized := (Load.form_unserialized hdata).of_eq_ok form hform
      cases form with
      | serialized _ => contradiction
      | parts entries =>
          rw [load_of_parts hform]
          constructor
          intro program hprogram
          obtain ⟨hdefinitions, hbody⟩ :=
            (Load.parts_describes hunserialized).of_eq_ok program hprogram
          exact .parts hform hdefinitions hbody
      | items list =>
          have hitems := Load.items_ensures
            (fun item hitem => Load.definition_describes
              (hunserialized item (List.mem_filter.mp hitem).1))
            (fun item hitem => Load.node_describes
              (hunserialized item (List.mem_filter.mp hitem).1))
          rw [load_of_items hform]
          constructor
          intro program hprogram
          obtain ⟨hdefinitions, hbody⟩ := hitems.of_eq_ok program hprogram
          exact .items hform hdefinitions hbody

end Program

/-! ## Normal forms of what is described -/

namespace Json

theorem GivesName.isEmpty_eq_false {data : Json} {name : String}
    (hname : data.GivesName name) : name.isEmpty = false := by
  cases hname with
  | text hne => simpa using hne
  | wrapped hne _ => simpa using hne

theorem GivesExpression.isNormal {data : Json} {e : Expression}
    (hgives : data.GivesExpression e) : e.IsNormal := by
  cases hgives with
  | text htext => exact Expression.isNormal_of htext
  | value htext _ => exact Expression.isNormal_of htext
  | wrapped htext _ _ => exact Expression.isNormal_of htext

theorem GivesValue.isNormal {data : Json} {value : PropValue}
    (hgives : data.GivesValue value) :
    (∃ found, value = .literal found) ∨
      ∃ e, value = .expression e ∧ e.IsNormal := by
  cases hgives with
  | literal found => exact Or.inl ⟨found, rfl⟩
  | wrapped found _ _ => exact Or.inl ⟨found, rfl⟩
  | expression _ hgives => exact Or.inr ⟨_, rfl, hgives.isNormal⟩

theorem GivesProps.isNormal {data : Json} {props : Props}
    (hprops : data.GivesProps props) :
    ∀ prop ∈ props, (∃ value, prop.2 = .literal value) ∨
      ∃ e, prop.2 = .expression e ∧ e.IsNormal := by
  intro prop hprop
  obtain ⟨entry, _, hvalue⟩ := List.exists_of_mem_of_forall₂ hprops prop hprop
  exact hvalue.isNormal

namespace Describes

variable {data : Json} {node : Node}

theorem children (hnode : data.Describes node) :
    List.Forall₂ Describes (data.field "children").listed node.children := by
  cases hnode with
  | conditional _ _ hchildren => exact hchildren
  | loop _ _ _ hchildren => exact hchildren
  | element _ _ _ _ hchildren => exact hchildren

theorem isNamed (hnode : data.Describes node) : node.isNamed = true := by
  cases hnode with
  | conditional _ _ _ => rfl
  | loop _ hitem _ _ => simp [Node.isNamed, hitem.isEmpty_eq_false]
  | element _ _ htag _ _ => simp [Node.isNamed, htag.isEmpty_eq_false]

theorem isNormal (hnode : data.Describes node) :
    ∀ e ∈ node.expressions, e.IsNormal := by
  cases hnode with
  | conditional _ hcondition _ =>
      exact List.forall_mem_singleton.mpr hcondition.isNormal
  | loop _ _ hsource _ => exact List.forall_mem_singleton.mpr hsource.isNormal
  | element _ _ _ hprops _ =>
      intro e he
      obtain ⟨prop, hprop, hfound⟩ := List.mem_filterMap.mp he
      rcases hprops.isNormal prop hprop with ⟨value, hvalue⟩ | ⟨e', hvalue, hnormal⟩
      · rw [hvalue] at hfound
        contradiction
      · rw [hvalue] at hfound
        cases hfound
        exact hnormal

/-- Of described nodes, all nodes inside them are described too. -/
theorem exists_of_mem_walkAll {nodes : List Node} {items : List Json}
    (hnodes : List.Forall₂ Describes items nodes) :
    ∀ node ∈ Node.walkAll nodes, ∃ source, Describes source node := by
  induction nodes using Node.forest_induction generalizing items with
  | nil => simp [Node.walkAll]
  | cons first rest hinner hrest =>
      cases hnodes with
      | cons hfirst hothers =>
          rw [Node.walkAll_cons, List.forall_mem_append, List.forall_mem_cons]
          exact ⟨⟨⟨_, hfirst⟩, hinner hfirst.children⟩, hrest hothers⟩

end Describes

theorem GivesParameter.isNamed {data : Json} {parameter : Parameter}
    (hparameter : data.GivesParameter parameter) :
    parameter.isNamed = true := by
  cases hparameter with
  | text hname => simp [Parameter.isNamed, hname]
  | plain hname _ => simp [Parameter.isNamed, hname.isEmpty_eq_false]
  | withDefault hname _ => simp [Parameter.isNamed, hname.isEmpty_eq_false]

theorem GivesParameter.isNormal {data : Json} {parameter : Parameter}
    (hparameter : data.GivesParameter parameter) {e : Expression}
    (he : parameter.default.bind PropValue.expression? = some e) :
    e.IsNormal := by
  cases hparameter with
  | text _ => contradiction
  | plain _ _ => contradiction
  | withDefault _ hdefault =>
      rcases hdefault.isNormal with ⟨value, rfl⟩ | ⟨e', rfl, hnormal⟩
      · contradiction
      · cases he
        exact hnormal

theorem DescribesDefinition.isWellNamed {data : Json} {definition : Definition}
    (hdefinition : data.DescribesDefinition definition) :
    definition.isWellNamed = true := by
  obtain ⟨hname, ⟨given, _, hparams⟩, hbody⟩ := hdefinition
  have hnamed : definition.params.all Parameter.isNamed = true := by
    rw [List.all_eq_true]
    intro parameter hmem
    obtain ⟨_, hparameter⟩ := List.exists_of_mem_of_forall₂ hparams parameter hmem
    exact hparameter.isNamed
  have hnodes : (Node.walkAll definition.body).all Node.isNamed = true := by
    rw [List.all_eq_true]
    intro node hnode
    obtain ⟨_, hdescribes⟩ := Describes.exists_of_mem_walkAll hbody node hnode
    exact hdescribes.isNamed
  simp [Definition.isWellNamed, hname.isEmpty_eq_false, hnamed, hnodes]

namespace DescribesProgram

variable {data : Json} {program : Program}

theorem definitions (hprogram : data.DescribesProgram program) :
    ∀ definition ∈ program.definitions,
      ∃ source, DescribesDefinition source definition := by
  cases hprogram with
  | parts _ hdefinitions _ => exact List.exists_of_mem_of_forall₂ hdefinitions
  | items _ hdefinitions _ => exact List.exists_of_mem_of_forall₂ hdefinitions

theorem body (hprogram : data.DescribesProgram program) :
    ∀ node ∈ Node.walkAll program.body, ∃ source, Describes source node := by
  cases hprogram with
  | parts _ _ hbody => exact Describes.exists_of_mem_walkAll hbody
  | items _ _ hbody => exact Describes.exists_of_mem_walkAll hbody

theorem nodes (hprogram : data.DescribesProgram program) :
    ∀ node ∈ program.nodes, ∃ source, Describes source node := by
  intro node hnode
  rcases List.mem_append.mp hnode with hdefined | hown
  · obtain ⟨definition, hmem, hinner⟩ := List.mem_flatMap.mp hdefined
    obtain ⟨source, hdefinition⟩ := hprogram.definitions definition hmem
    exact Describes.exists_of_mem_walkAll hdefinition.body node hinner
  · exact hprogram.body node hown

theorem isWellNamed (hprogram : data.DescribesProgram program) :
    program.isWellNamed = true := by
  rw [Program.isWellNamed, Bool.and_eq_true, List.all_eq_true, List.all_eq_true]
  constructor
  · intro definition hmem
    obtain ⟨_, hdefinition⟩ := hprogram.definitions definition hmem
    exact hdefinition.isWellNamed
  · intro node hnode
    obtain ⟨_, hdescribes⟩ := hprogram.body node hnode
    exact hdescribes.isNamed

end DescribesProgram

end Json

namespace Program

/-- The expressions of a program: those of its nodes and the defaults of
parameters. -/
def expressions (program : Program) : List Expression :=
  program.nodes.flatMap Node.expressions ++
    program.definitions.flatMap fun definition =>
      definition.params.filterMap fun parameter =>
        parameter.default.bind PropValue.expression?

private theorem isNormal_of_describes {data : Json} {program : Program}
    (hprogram : data.DescribesProgram program) :
    ∀ e ∈ program.expressions, e.IsNormal := by
  intro e he
  rcases List.mem_append.mp he with hnodes | hdefaults
  · obtain ⟨node, hnode, hmem⟩ := List.mem_flatMap.mp hnodes
    obtain ⟨_, hdescribes⟩ := hprogram.nodes node hnode
    exact hdescribes.isNormal e hmem
  · obtain ⟨definition, hdefinition, hmem⟩ := List.mem_flatMap.mp hdefaults
    obtain ⟨parameter, hparameter, hfound⟩ := List.mem_filterMap.mp hmem
    obtain ⟨_, hdescribes⟩ := hprogram.definitions definition hdefinition
    obtain ⟨_, _, hparams⟩ := hdescribes.params
    obtain ⟨_, hgives⟩ := List.exists_of_mem_of_forall₂ hparams parameter hparameter
    exact hgives.isNormal hfound

end Program

/-- The expression is what some text denotes. -/
def Expression.IsRead (expression : Expression) : Prop :=
  ∃ text, expression = Expression.of text

theorem Expression.IsRead.isPath_eq {expression : Expression}
    (hread : expression.IsRead) :
    expression.isPath = Name.isPath expression.text := by
  obtain ⟨text, rfl⟩ := hread
  by_cases hpath : Name.isPath (Text.trim text) = true
  · simp [Expression.of, Expression.isPath, hpath]
  · simp [Expression.of, Expression.isPath, hpath]

/-- The expressions of a node itself are read from texts. -/
def Node.ReadsTexts : Node → Prop
  | .element _ props _ => ∀ key e, (key, .expression e) ∈ props → e.IsRead
  | .conditional condition _ => condition.IsRead
  | .loop _ source _ => source.IsRead

theorem Node.readsTexts_of_isNormal {node : Node}
    (hnormal : ∀ e ∈ node.expressions, e.IsNormal) : node.ReadsTexts := by
  have hread : ∀ e ∈ node.expressions, e.IsRead :=
    fun e he => ⟨e.text, (hnormal e he).of_text.symm⟩
  cases node with
  | element tag props children =>
      intro key e hmem
      exact hread e (List.mem_filterMap.mpr ⟨(key, .expression e), hmem, rfl⟩)
  | conditional condition children =>
      exact hread condition List.mem_cons_self
  | loop item source children => exact hread source List.mem_cons_self

namespace Program

/-- Every expression of a program that is loaded from unserialized data is what
some text denotes. -/
theorem load_readsTexts {data : Json} (hdata : data.Unserialized) :
    Load.Ensures (load data)
      fun program => ∀ node ∈ program.nodes, node.ReadsTexts := by
  constructor
  intro program hload node hnode
  have hprogram := (load_describes hdata).of_eq_ok program hload
  obtain ⟨_, hdescribes⟩ := hprogram.nodes node hnode
  exact Node.readsTexts_of_isNormal hdescribes.isNormal

/-- A program that is loaded from data without serialized parts is in normal
form: every expression, at any depth and in the defaults of parameters too, is
what its own non-empty text denotes; every tag, loop item, component and
parameter has a non-empty name; and every property is a literal or such an
expression.  The data describes the program, with the children, the parameters
and the properties that are not null one by one in their order. -/
theorem loaded_program_is_normal {data : Json} {program : Program}
    (hdata : data.Unserialized) (hload : load data = .ok program) :
    (∀ e ∈ program.expressions, e.IsNormal) ∧
    program.isWellNamed = true ∧
    (∀ tag props children, Node.element tag props children ∈ program.nodes →
      ∀ prop ∈ props, (∃ value, prop.2 = .literal value) ∨
        ∃ e, prop.2 = .expression e ∧ e.IsNormal) ∧
    data.DescribesProgram program := by
  have hprogram := (load_describes hdata).of_eq_ok program hload
  refine ⟨isNormal_of_describes hprogram, hprogram.isWellNamed, ?_, hprogram⟩
  intro tag props children hnode
  obtain ⟨_, hdescribes⟩ := hprogram.nodes _ hnode
  cases hdescribes with
  | element _ _ _ hprops _ => exact hprops.isNormal

/-- A loop over elements with a property that is null and a wrapped literal,
and a definition with an expression as the default of a parameter. -/
def badgeRows : Json :=
  .array
    [.object [("type", .text "For"), ("item", .text "row"),
      ("list", .text " rows || [] "),
      ("children", .array [.object [("type", .text "Badge"),
        ("props", .object [("color", .null),
          ("size", .object [("type", .text "string"),
            ("value", .text "md")])])]])],
    .object [("type", .text "Component"),
      ("name", .object [("value", .text "Badge")]),
      ("params", .array [.text "size",
        .object [("value", .text "color"),
          ("default", .object [("kind", .text "identifier"),
            ("text", .text " theme.accent\n")])]])]]

/-- What the badge rows are loaded as. -/
def badgeRowsLoaded : Program where
  definitions := [{ name := "Badge", params :=
    [{ name := "size" },
      { name := "color",
        default := some (.expression ⟨.identifier, "theme.accent"⟩) }] }]
  body := [.loop "row" ⟨.compound, "rows || []"⟩
    [.element "Badge" [("size", .text "md")] []]]

private theorem badgeRows_unserialized : badgeRows.Unserialized := by
  simp [badgeRows, Entries.get?, Json.serializedKinds, Json.Unserialized.null,
    Json.Unserialized.text]

theorem badgeRows_normal :
    load badgeRows = .ok badgeRowsLoaded ∧
      (∀ e ∈ badgeRowsLoaded.expressions, e.IsNormal) ∧
      badgeRowsLoaded.isWellNamed = true ∧
      (∀ tag props children,
        Node.element tag props children ∈ badgeRowsLoaded.nodes →
        ∀ prop ∈ props, (∃ value, prop.2 = .literal value) ∨
          ∃ e, prop.2 = .expression e ∧ e.IsNormal) ∧
      badgeRows.DescribesProgram badgeRowsLoaded := by
  have hload : load badgeRows = .ok badgeRowsLoaded := by rfl
  exact ⟨hload, loaded_program_is_normal badgeRows_unserialized hload⟩

end Program
end ViewCompiler
