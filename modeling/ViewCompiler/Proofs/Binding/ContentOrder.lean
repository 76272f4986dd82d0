import ViewCompiler.Proofs.Binding.Scope
import ViewCompiler.Proofs.Entries
import Mathlib.Data.List.Sort
import Mathlib.Data.Set.Basic

/-!
# The classification does not depend on order and nesting

The content of a node is what it says without its children: the tag of an
element with its properties as a mapping, the condition of a conditional block,
the item and the source of a loop.  Names in use and targets are found node by
node, so they depend on the set of contents in a program only, and with them
the partition and the parameters.  Where a node stands, how often it occurs and
whether it belongs to a definition or to the body makes no difference.
-/

namespace ViewCompiler
namespace Node

/-- What a node says by itself. -/
inductive Content where
  | element (tag : String) (property? : String → Option PropValue)
  | conditional (condition : Expression)
  | loop (item : String) (source : Expression)

def content : Node → Content
  | .element tag props _ => .element tag (Entries.get? props)
  | .conditional condition _ => .conditional condition
  | .loop item source _ => .loop item source

theorem content_eq_cases {node other : Node}
    (hcontent : node.content = other.content) :
    (∃ tag props others children inner,
      node = .element tag props children ∧ other = .element tag others inner ∧
        Entries.get? props = Entries.get? others) ∨
    (∃ condition children inner,
      node = .conditional condition children ∧
        other = .conditional condition inner) ∨
    ∃ item source children inner,
      node = .loop item source children ∧ other = .loop item source inner := by
  cases node with
  | element tag props children =>
      cases other with
      | element tag' others inner =>
          obtain ⟨rfl, hget⟩ := Content.element.inj hcontent
          exact Or.inl ⟨tag, props, others, children, inner, rfl, rfl, hget⟩
      | _ => contradiction
  | conditional condition children =>
      cases other with
      | conditional condition' inner =>
          obtain rfl := Content.conditional.inj hcontent
          exact Or.inr (Or.inl ⟨condition, children, inner, rfl, rfl⟩)
      | _ => contradiction
  | loop item source children =>
      cases other with
      | loop item' source' inner =>
          obtain ⟨rfl, rfl⟩ := Content.loop.inj hcontent
          exact Or.inr (Or.inr ⟨item, source, children, inner, rfl, rfl⟩)
      | _ => contradiction

/-- The properties are a mapping: no two of them have one name. -/
def PropsDistinct : Node → Prop
  | .element _ props _ => (Entries.keys props).Nodup
  | _ => True

theorem walkAll_append (first second : List Node) :
    walkAll (first ++ second) = walkAll first ++ walkAll second := by
  induction first with
  | nil => rfl
  | cons node rest ih =>
      rw [List.cons_append, walkAll, walkAll, ih, List.append_assoc]

end Node

namespace Program

/-- The contents that occur in a program. -/
def contents (program : Program) : Set Node.Content :=
  {content | ∃ node ∈ program.nodes, node.content = content}

theorem mem_contents_iff {program : Program} {content : Node.Content} :
    content ∈ program.contents ↔
      ∃ node ∈ program.nodes, node.content = content :=
  Iff.rfl

/-- A property of nodes that nodes of the same content share is found in both
programs or in none. -/
theorem exists_node_iff_of_contents_eq {first second : Program}
    (hcontents : first.contents = second.contents) {P : Node → Prop}
    (hshared : ∀ node ∈ first.nodes, ∀ other ∈ second.nodes,
      node.content = other.content → (P node ↔ P other)) :
    (∃ node ∈ first.nodes, P node) ↔ ∃ node ∈ second.nodes, P node := by
  constructor
  · rintro ⟨node, hnode, hP⟩
    have hmem : node.content ∈ second.contents := by
      rw [← hcontents, mem_contents_iff]
      exact ⟨node, hnode, rfl⟩
    obtain ⟨other, hother, heq⟩ := mem_contents_iff.mp hmem
    exact ⟨other, hother, (hshared node hnode other hother heq.symm).mp hP⟩
  · rintro ⟨other, hother, hP⟩
    have hmem : other.content ∈ first.contents := by
      rw [hcontents, mem_contents_iff]
      exact ⟨other, hother, rfl⟩
    obtain ⟨node, hnode, heq⟩ := mem_contents_iff.mp hmem
    exact ⟨node, hnode, (hshared node hnode other hother heq).mpr hP⟩

end Program

namespace Binding

/-! ## What a node adds to a scan -/

private theorem mentions_iff_of_content_eq {node other : Node}
    (hnode : node.PropsDistinct) (hother : other.PropsDistinct)
    (hcontent : node.content = other.content) {name : String} :
    Mentions node name ↔ Mentions other name := by
  rcases Node.content_eq_cases hcontent with
    ⟨tag, props, others, children, inner, rfl, rfl, hget⟩ |
      ⟨condition, children, inner, rfl, rfl⟩ |
      ⟨item, source, children, inner, rfl, rfl⟩
  · have hmem : ∀ prop, prop ∈ props ↔ prop ∈ others := by
      rintro ⟨key, value⟩
      rw [← Entries.get?_eq_some_iff_mem hnode, hget,
        Entries.get?_eq_some_iff_mem hother]
    simp only [mentions_element_iff, hmem]
  · rw [mentions_conditional_iff, mentions_conditional_iff]
  · rw [mentions_loop_iff, mentions_loop_iff]

theorem boundTarget?_eq_of_content_eq {node other : Node}
    (hcontent : node.content = other.content) :
    boundTarget? node = boundTarget? other := by
  rcases Node.content_eq_cases hcontent with
    ⟨tag, props, others, children, inner, rfl, rfl, hget⟩ |
      ⟨condition, children, inner, rfl, rfl⟩ |
      ⟨item, source, children, inner, rfl, rfl⟩
  · simp only [boundTarget?, target?, hget]
  · rfl
  · rfl

/-! ## Names on the two sides of the partition -/

theorem mem_names_filter_iff {targets : List BindTarget}
    {keep : BindTarget → Bool} {P : String → Prop}
    (hkeep : ∀ target, keep target = true ↔ P target.name) {name : String} :
    name ∈ (targets.filter keep).map BindTarget.name ↔
      name ∈ targets.map BindTarget.name ∧ P name := by
  simp only [List.mem_map, List.mem_filter, hkeep]
  constructor
  · rintro ⟨target, ⟨htarget, hP⟩, rfl⟩
    exact ⟨⟨target, htarget, rfl⟩, hP⟩
  · rintro ⟨⟨target, htarget, rfl⟩, hP⟩
    exact ⟨target, ⟨htarget, hP⟩, rfl⟩

namespace Scan

variable {scan : Scan} {name : String}

theorem mem_internalNames_iff :
    name ∈ scan.classify.internalNames ↔
      name ∈ scan.targets.map BindTarget.name ∧
        ¬(name ∈ scan.used ∧ Name.setter name ∈ scan.used) := by
  apply mem_names_filter_iff
  intro target
  rw [Bool.not_eq_true', ← Bool.not_eq_true, passesDown_iff, BindTarget.setter]

theorem mem_externalNames_iff :
    name ∈ scan.classify.externalNames ↔
      name ∈ scan.targets.map BindTarget.name ∧
        name ∈ scan.used ∧ Name.setter name ∈ scan.used := by
  apply mem_names_filter_iff
  intro target
  rw [passesDown_iff, BindTarget.setter]

end Scan

theorem mem_owned_iff_internalNames {partition : Partition} {name : String} :
    name ∈ partition.owned ↔
      ∃ target ∈ partition.internalNames,
        name = target ∨ name = Name.setter target := by
  simp [mem_owned_iff, Partition.internalNames, BindTarget.setter]

private theorem parameters_eq_of_names {first second : Scan}
    (hused : ∀ name, name ∈ first.used ↔ name ∈ second.used)
    (hinternal : ∀ name, name ∈ first.classify.internalNames ↔
      name ∈ second.classify.internalNames) :
    parameters first first.classify = parameters second second.classify := by
  apply (parameters_pairwise_lt _ _).eq_of_mem_iff (parameters_pairwise_lt _ _)
  intro name
  simp only [mem_parameters_iff, mem_owned_iff_internalNames, hused, hinternal]

/-- Programs with the same contents use the same names, have the same parameters
in the same order, and have the same targets as state and from the caller. -/
theorem classification_depends_on_contents {first second : Program}
    (hfirst : ∀ node ∈ first.nodes, node.PropsDistinct)
    (hsecond : ∀ node ∈ second.nodes, node.PropsDistinct)
    (hcontents : first.contents = second.contents) :
    let found := scan first
    let other := scan second
    (∀ name, name ∈ found.used ↔ name ∈ other.used) ∧
    parameters found found.classify = parameters other other.classify ∧
    (∀ name, name ∈ found.classify.internalNames ↔
      name ∈ other.classify.internalNames) ∧
    ∀ name, name ∈ found.classify.externalNames ↔
      name ∈ other.classify.externalNames := by
  intro found other
  have hfound : found.Covers first.nodes := scan_covers first
  have hother : other.Covers second.nodes := scan_covers second
  have hused : ∀ name, name ∈ found.used ↔ name ∈ other.used := by
    intro name
    rw [hfound.used_iff, hother.used_iff]
    apply Program.exists_node_iff_of_contents_eq hcontents
    intro node hnode node' hnode' hcontent
    exact mentions_iff_of_content_eq (hfirst node hnode)
      (hsecond node' hnode') hcontent
  have htargets : ∀ name, name ∈ found.targets.map BindTarget.name ↔
      name ∈ other.targets.map BindTarget.name := by
    intro name
    rw [hfound.mem_targetNames_iff, hother.mem_targetNames_iff]
    apply Program.exists_node_iff_of_contents_eq hcontents
    intro node _ node' _ hcontent
    rw [boundTarget?_eq_of_content_eq hcontent]
  have hinternal : ∀ name, name ∈ found.classify.internalNames ↔
      name ∈ other.classify.internalNames := by
    intro name
    simp only [Scan.mem_internalNames_iff, htargets, hused]
  refine ⟨hused, parameters_eq_of_names hused hinternal, hinternal, ?_⟩
  intro name
  simp only [Scan.mem_externalNames_iff, htargets, hused]

/-- A field inside a conditional block, with its text in a definition. -/
def nestedCounter : Program :=
  { definitions :=
      [{ name := "Total"
         body := [.element "Text" [("text", .expression (.of "count"))] []] }]
    body :=
      [.conditional (.of "ready")
        [.element "Input" [("bind", .text "count"), ("label", .text "Count")]
          []]] }

/-- The same nodes in the body, turned inside out and with the text twice. -/
def flatCounter : Program :=
  { body :=
      [.element "Text" [("text", .expression (.of "count"))] [],
        .element "Input" [("label", .text "Count"), ("bind", .text "count")]
          [.element "Text" [("text", .expression (.of "count"))] []],
        .conditional (.of "ready") []] }

theorem counters_classified_alike :
    let found := scan nestedCounter
    let other := scan flatCounter
    nestedCounter.contents = flatCounter.contents ∧
    (∀ name, name ∈ found.used ↔ name ∈ other.used) ∧
    parameters found found.classify = parameters other other.classify ∧
    (∀ name, name ∈ found.classify.internalNames ↔
      name ∈ other.classify.internalNames) ∧
    ∀ name, name ∈ found.classify.externalNames ↔
      name ∈ other.classify.externalNames := by
  intro found other
  have hnested : ∀ node ∈ nestedCounter.nodes, node.PropsDistinct := by
    simp [nestedCounter, Program.nodes, Node.walkAll, Node.walk,
      Node.PropsDistinct, Entries.keys]
  have hflat : ∀ node ∈ flatCounter.nodes, node.PropsDistinct := by
    simp [flatCounter, Program.nodes, Node.walkAll, Node.walk,
      Node.PropsDistinct, Entries.keys]
  have hprops :
      Entries.get? [("bind", PropValue.text "count"), ("label", .text "Count")] =
        Entries.get? [("label", .text "Count"), ("bind", .text "count")] :=
    Entries.get?_of_perm (by decide) (List.Perm.swap _ _ _)
  have hcontents : nestedCounter.contents = flatCounter.contents := by
    ext content
    simp only [Program.mem_contents_iff, nestedCounter, flatCounter,
      Program.nodes, Node.walkAll, Node.walk, Node.content, hprops,
      List.flatMap_cons, List.flatMap_nil, List.append_nil, List.cons_append,
      List.nil_append, List.exists_mem_cons_iff, List.not_mem_nil, false_and,
      exists_false, or_false]
    tauto
  exact ⟨hcontents,
    classification_depends_on_contents hnested hflat hcontents⟩

end Binding
end ViewCompiler
