import ViewCompiler.Output.Module
import ViewCompiler.Proofs.Binding.Scope
import ViewCompiler.Proofs.Entries

/-!
# Names inside loops

In a program a loop binds its item.  In the generated code it binds the item
and an index, whose name is chosen by looking at the item alone.  A reference
inside the loop keeps its meaning as long as the index does not take its name;
where it does, the index captures the reference.

A reference is looked up from the inside out: in the loops around it, then in
the parameters of the definition it stands in, then in the parameters and the
state of the default export.
-/

namespace ViewCompiler

/-- What a name in the markup denotes.  A loop is identified by the number of
loops around it. -/
inductive Binder where
  | item (level : Nat)
  | index (level : Nat)
  | definitionParameter
  | moduleParameter
  | state
deriving DecidableEq

/-- A node where it stands: the items of the loops around it, the innermost
first, and the parameters of the definition around it. -/
structure Site where
  node : Node
  loops : List String
  params : List String

mutual

def Node.sites (params loops : List String) : Node → List Site
  | .element tag props children =>
    ⟨.element tag props children, loops, params⟩ ::
      sitesAll params loops children
  | .conditional condition children =>
    ⟨.conditional condition children, loops, params⟩ ::
      sitesAll params loops children
  -- The source of a loop is outside what the loop binds.
  | .loop item source children =>
    ⟨.loop item source children, loops, params⟩ ::
      sitesAll params (item :: loops) children

def Node.sitesAll (params loops : List String) : List Node → List Site
  | [] => []
  | node :: rest =>
    Node.sites params loops node ++ sitesAll params loops rest

end

/-- All nodes of a program where they stand. -/
def Program.sites (program : Program) : List Site :=
  program.definitions.flatMap
      (fun definition =>
        Node.sitesAll definition.paramNames [] definition.body) ++
    Node.sitesAll [] [] program.body

namespace Scope

/-- What the default export binds. -/
def ofExport (program : Program) : Entries Binder :=
  let scan := Binding.scan program
  (Binding.parameters scan scan.classify).map (·, .moduleParameter) ++
    scan.classify.owned.map (·, .state)

/-- What is bound around the loops of a site. -/
def ofSite (program : Program) (site : Site) : Entries Binder :=
  site.params.map (·, .definitionParameter) ++ ofExport program

/-- The scope inside loops of a program. -/
def source (outer : Entries Binder) : List String → Entries Binder
  | [] => outer
  | item :: loops => (item, .item loops.length) :: source outer loops

/-- The scope inside loops of the generated code. -/
def emitted (outer : Entries Binder) : List String → Entries Binder
  | [] => outer
  | item :: loops =>
    (Markup.loopBinders item).zip [.item loops.length, .index loops.length] ++
      emitted outer loops

end Scope

/-- The markup of a node refers to a name: by the path of a property that is
rendered, of a condition or of the source of a loop, or as its bind target. -/
inductive Renders : Node → String → Prop
  | property {tag : String} {props : Props} {children : List Node}
      {key name : String} {value : PropValue}
      (hprop : (key, value) ∈ props)
      (hkey : Markup.isAttribute (Binding.target? props).isSome key = true ∨
        key = "text")
      (hreference : Binding.propReference key value = some name) :
      Renders (.element tag props children) name
  | condition {condition : Expression} {children : List Node} {name : String}
      (hroot : condition.root = some name) :
      Renders (.conditional condition children) name
  | source {item : String} {source : Expression} {children : List Node}
      {name : String} (hroot : source.root = some name) :
      Renders (.loop item source children) name
  | target {node : Node} {target : String}
      (hbound : Binding.boundTarget? node = some target) :
      Renders node target

/-- No index takes the name: it differs from the index of every loop, unless
another loop in between has the name as its item. -/
def IndicesDiffer (loops : List String) (name : String) : Prop :=
  ∀ inner item outer, loops = inner ++ item :: outer → name ∉ inner →
    Markup.indexName item ≠ name

/-- No index of a loop takes a name that is referred to inside the loop, and
every reference denotes in the generated code what it denotes in the
program. -/
def Program.Hygienic (program : Program) : Prop :=
  ∀ site ∈ program.sites, ∀ name, Renders site.node name →
    IndicesDiffer site.loops name ∧
      ∃ binder,
        Entries.get? (Scope.source (Scope.ofSite program site) site.loops)
            name = some binder ∧
          Entries.get?
            (Scope.emitted (Scope.ofSite program site) site.loops)
            name = some binder

/-! ## Names of indices -/

theorem indexName_ne_item (item : String) : Markup.indexName item ≠ item := by
  by_cases hitem : item = "index"
  · subst hitem
    decide
  · simp only [Markup.indexName, beq_iff_eq, if_neg hitem]
    exact Ne.symm hitem

theorem indexName_eq_index_iff {item : String} :
    Markup.indexName item = "index" ↔ item ≠ "index" := by
  by_cases hitem : item = "index"
  · simp [Markup.indexName, hitem]
  · simp [Markup.indexName, hitem]

theorem indexName_eq_position_iff {item : String} :
    Markup.indexName item = "position" ↔ item = "index" := by
  by_cases hitem : item = "index"
  · simp [Markup.indexName, hitem]
  · simp [Markup.indexName, hitem]

theorem indexName_cases (item : String) :
    Markup.indexName item = "index" ∨ Markup.indexName item = "position" := by
  rw [indexName_eq_index_iff, indexName_eq_position_iff]
  exact (em (item = "index")).symm

theorem indicesDiffer_nil (name : String) : IndicesDiffer [] name := by
  intro inner item outer hsplit
  simp at hsplit

theorem indicesDiffer_cons_iff {item name : String} {loops : List String} :
    IndicesDiffer (item :: loops) name ↔
      Markup.indexName item ≠ name ∧
        (item ≠ name → IndicesDiffer loops name) := by
  constructor
  · intro hdiffer
    refine ⟨hdiffer [] item loops rfl (by simp), ?_⟩
    intro hitem inner other outer hsplit hinner
    apply hdiffer (item :: inner) other outer
    · rw [hsplit, List.cons_append]
    · rw [List.mem_cons, not_or]
      exact ⟨Ne.symm hitem, hinner⟩
  · rintro ⟨hindex, hrest⟩ inner other outer hsplit hinner
    cases inner with
    | nil =>
        obtain ⟨rfl, rfl⟩ := List.cons.inj hsplit
        exact hindex
    | cons first inner =>
        obtain ⟨rfl, hloops⟩ := List.cons.inj hsplit
        rw [List.mem_cons, not_or] at hinner
        exact hrest (Ne.symm hinner.1) inner other outer hloops hinner.2

/-- A name escapes all indices, unless it is `index` right inside a loop over
another item, or `position` inside a loop over `index` with no loop over
`position` in between. -/
theorem indicesDiffer_iff {loops : List String} {name : String} :
    IndicesDiffer loops name ↔
      (name = "index" → ∀ item ∈ loops.head?, item = "index") ∧
        (name = "position" →
          "index" ∉ loops.takeWhile (· != "position")) := by
  induction loops with
  | nil => simp [indicesDiffer_nil]
  | cons item loops ih =>
      rw [indicesDiffer_cons_iff, ih]
      by_cases hindex : name = "index"
      · subst hindex
        rw [Ne, indexName_eq_index_iff, not_not]
        simp +contextual
      · by_cases hposition : name = "position"
        · subst hposition
          rw [Ne, indexName_eq_position_iff]
          by_cases hitem : item = "position"
          · simp [hitem]
          · simp [hitem, @eq_comm String "index" item]
        · have hfree : Markup.indexName item ≠ name := by
            rcases indexName_cases item with heq | heq
            · exact heq ▸ Ne.symm hindex
            · exact heq ▸ Ne.symm hposition
          simp [hindex, hposition, hfree]

/-! ## Scopes -/

variable {outer : Entries Binder} {name : String}

private theorem get?_source_ne_index
    (houter : ∀ level, Entries.get? outer name ≠ some (.index level))
    (loops : List String) (level : Nat) :
    Entries.get? (Scope.source outer loops) name ≠ some (.index level) := by
  induction loops with
  | nil => exact houter level
  | cons item loops ih =>
      by_cases hitem : item = name
      · simp [Scope.source, Entries.get?, hitem]
      · simpa [Scope.source, Entries.get?, hitem] using ih

theorem get?_emitted_eq_source_iff
    (houter : ∀ level, Entries.get? outer name ≠ some (.index level))
    (loops : List String) :
    Entries.get? (Scope.emitted outer loops) name =
        Entries.get? (Scope.source outer loops) name ↔
      IndicesDiffer loops name := by
  induction loops with
  | nil => simp [Scope.emitted, Scope.source, indicesDiffer_nil]
  | cons item loops ih =>
      rw [indicesDiffer_cons_iff]
      by_cases hitem : item = name
      · subst hitem
        simp [Scope.emitted, Scope.source, Markup.loopBinders, Entries.get?,
          indexName_ne_item]
      · by_cases hindex : Markup.indexName item = name
        · have hsource := get?_source_ne_index houter loops loops.length
          simp [Scope.emitted, Scope.source, Markup.loopBinders, Entries.get?,
            hitem, hindex, hsource.symm]
        · simp [Scope.emitted, Scope.source, Markup.loopBinders, Entries.get?,
            hitem, hindex, ih]

private theorem get?_ofSite_ne_index (program : Program) (site : Site)
    (level : Nat) :
    Entries.get? (Scope.ofSite program site) name ≠ some (.index level) := by
  intro hget
  have hmem := Entries.mem_of_get?_eq_some hget
  simp [Scope.ofSite, Scope.ofExport] at hmem

/-! ## References resolve -/

mutual

theorem map_node_sites (params loops : List String) (node : Node) :
    (node.sites params loops).map Site.node = node.walk := by
  cases node with
  | element tag props children =>
      simp [Node.sites, Node.walk, map_node_sitesAll params loops children]
  | conditional condition children =>
      simp [Node.sites, Node.walk, map_node_sitesAll params loops children]
  | loop item source children =>
      simp [Node.sites, Node.walk,
        map_node_sitesAll params (item :: loops) children]

theorem map_node_sitesAll (params loops : List String) (nodes : List Node) :
    (Node.sitesAll params loops nodes).map Site.node = Node.walkAll nodes := by
  match nodes with
  | [] => rfl
  | node :: rest =>
      rw [Node.sitesAll, Node.walkAll, List.map_append,
        map_node_sites params loops node, map_node_sitesAll params loops rest]

end

theorem map_node_programSites (program : Program) :
    program.sites.map Site.node = program.nodes := by
  simp only [Program.sites, Program.nodes, List.map_append, List.map_flatMap,
    map_node_sitesAll]

theorem Renders.refersTo {node : Node} (hrenders : Renders node name) :
    Binding.RefersTo node name := by
  cases hrenders with
  | property hprop _ hreference =>
      exact .mention
        (Binding.mentions_element_iff.mpr ⟨_, hprop, hreference⟩)
  | condition hroot => exact .mention (.condition hroot)
  | source hroot => exact .mention (.source hroot)
  | target hbound => exact .read hbound

theorem mem_source_of_mem_outer {entry : String × Binder}
    (hentry : entry ∈ outer) (loops : List String) :
    entry ∈ Scope.source outer loops := by
  induction loops with
  | nil => exact hentry
  | cons item loops ih => exact List.mem_cons_of_mem _ ih

private theorem exists_source_binder {program : Program} {site : Site}
    (hsite : site ∈ program.sites) (hrenders : Renders site.node name) :
    ∃ binder,
      Entries.get? (Scope.source (Scope.ofSite program site) site.loops) name =
        some binder := by
  have hnode : site.node ∈ program.nodes := by
    rw [← map_node_programSites]
    exact List.mem_map_of_mem hsite
  have hexport : ∃ binder, (name, binder) ∈ Scope.ofSite program site := by
    rcases Binding.refersTo_bound hnode hrenders.refersTo with hparam | howned
    · exact ⟨.moduleParameter, by simp [Scope.ofSite, Scope.ofExport, hparam]⟩
    · exact ⟨.state, by simp [Scope.ofSite, Scope.ofExport, howned]⟩
  obtain ⟨binder, hbinder⟩ := hexport
  exact Option.isSome_iff_exists.mp
    (Entries.get?_isSome_of_mem (mem_source_of_mem_outer hbinder site.loops))

theorem denotes_same_iff {program : Program} {site : Site}
    (hsite : site ∈ program.sites) (hrenders : Renders site.node name) :
    ∃ binder,
      Entries.get? (Scope.source (Scope.ofSite program site) site.loops) name =
          some binder ∧
        (Entries.get? (Scope.emitted (Scope.ofSite program site) site.loops)
            name = some binder ↔
          IndicesDiffer site.loops name) := by
  obtain ⟨binder, hsource⟩ := exists_source_binder hsite hrenders
  refine ⟨binder, hsource, ?_⟩
  rw [← hsource]
  exact get?_emitted_eq_source_iff (get?_ofSite_ne_index program site) _

/-- Every reference in the markup of a program denotes something, and it
denotes the same in the generated code exactly if no index of a loop around it
takes its name; an index never takes the name of its own item.  So a program
is hygienic exactly if it refers to nothing called `index` right inside a loop
over another item, and to nothing called `position` inside a loop over `index`
with no loop over `position` in between. -/
theorem loop_indices_hygienic_iff (program : Program) :
    (∀ item, Markup.indexName item ≠ item) ∧
    (∀ site ∈ program.sites, ∀ name, Renders site.node name →
      ∃ binder,
        Entries.get? (Scope.source (Scope.ofSite program site) site.loops)
            name = some binder ∧
          (Entries.get?
              (Scope.emitted (Scope.ofSite program site) site.loops)
              name = some binder ↔
            IndicesDiffer site.loops name)) ∧
    (program.Hygienic ↔
      ∀ site ∈ program.sites, ∀ name, Renders site.node name →
        (name = "index" → ∀ item ∈ site.loops.head?, item = "index") ∧
          (name = "position" →
            "index" ∉ site.loops.takeWhile (· != "position"))) := by
  refine ⟨indexName_ne_item, ?_, ?_⟩
  · intro site hsite name hrenders
    exact denotes_same_iff hsite hrenders
  · simp only [← indicesDiffer_iff]
    constructor
    · intro hhygienic site hsite name hrenders
      exact (hhygienic site hsite name hrenders).1
    · intro hdiffer site hsite name hrenders
      have hname := hdiffer site hsite name hrenders
      obtain ⟨binder, hsource, hemitted⟩ := denotes_same_iff hsite hrenders
      exact ⟨hname, binder, hsource, hemitted.mpr hname⟩

def indexText : Node :=
  .element "Text" [("text", .expression (.of "index"))] []

/-- A loop over rows that shows `index` for every row. -/
def indexTexts (item : String) : Program :=
  { body := [.loop item (.of "rows") [indexText]] }

theorem sites_indexTexts (item : String) :
    (indexTexts item).sites =
      [⟨.loop item (.of "rows") [indexText], [], []⟩,
        ⟨indexText, [item], []⟩] := rfl

theorem root_index : (Expression.of "index").root = some "index" := by
  decide +kernel

/-- Where the item itself is called `index`, it is what is shown. -/
theorem indexTexts_hygienic_of_item : (indexTexts "index").Hygienic := by
  apply (loop_indices_hygienic_iff (indexTexts "index")).2.2.mpr
  intro site hsite name hrenders
  rw [sites_indexTexts, List.mem_cons, List.mem_singleton] at hsite
  rcases hsite with rfl | rfl
  · simp
  · have hname : name = "index" := by
      cases hrenders with
      | property hprop _ hreference =>
          obtain ⟨rfl, rfl⟩ := Prod.mk.inj (List.mem_singleton.mp hprop)
          exact (Option.some.inj (root_index.symm.trans hreference)).symm
      | target hbound => contradiction
    simp [hname]

/-- Where the item has another name, `index` is a parameter of the default
export, and the index of the loop captures it. -/
theorem indexTexts_capture_parameter : ¬(indexTexts "row").Hygienic := by
  intro hhygienic
  have hsite : ⟨indexText, ["row"], []⟩ ∈ (indexTexts "row").sites := by
    rw [sites_indexTexts]
    exact List.mem_cons_of_mem _ List.mem_cons_self
  have hrenders : Renders indexText "index" :=
    .property List.mem_cons_self (Or.inr rfl) root_index
  have hdiffer := (hhygienic _ hsite "index" hrenders).1
  exact hdiffer [] "row" [] rfl List.not_mem_nil rfl

end ViewCompiler
