import ViewCompiler.Output.Module
import ViewCompiler.Proofs.Entries
import ViewCompiler.Proofs.Output.Nesting

/-!
# Tags of defined components

A module has a function for every component that the program defines, under the
name of the component, and writes elements with the tags in force.  The lines of
every node of the program stand in the module in one piece, behind the first
lines of the nodes that come before it.  They have the name of a defined
component as their tag, unless there is a default tag for that name: the default
tags are in force for defined components too.
-/

namespace ViewCompiler

namespace Markup

/-- The lines are those of an element with the given tag: one that closes
itself, or an opening and a closing one. -/
def TaggedAs (name : String) (props : Props) (lines : List Line) : Prop :=
  ∃ depth,
    lines = [⟨depth, tagStart name (attributes props) ++ " />"⟩] ∨
      ∃ inner, lines =
        ⟨depth, tagStart name (attributes props) ++ ">"⟩ :: inner ++
          [⟨depth, "</" ++ name ++ ">"⟩]

private theorem nodeLines_taggedAs (tags : Entries String) (tag : String)
    (props : Props) (children : List Node) (depth : Nat) :
    TaggedAs (tagName tags tag) props
      (nodeLines tags (.element tag props children) depth) := by
  rw [nodeLines, elementLines]
  split
  · exact ⟨depth, Or.inl rfl⟩
  · exact ⟨depth, Or.inr ⟨_, rfl⟩⟩

theorem TaggedAs.first_text {name : String} {props : Props}
    {lines : List Line} (htagged : TaggedAs name props lines) :
    ∃ line rest text,
      lines = line :: rest ∧ line.text = "<" ++ name ++ text := by
  obtain ⟨depth, rfl | ⟨inner, rfl⟩⟩ := htagged
  · exact ⟨_, _, _, rfl, String.append_assoc⟩
  · exact ⟨_, _, _, rfl, String.append_assoc⟩

/-- Two tags of the same lines start with the same letter. -/
theorem TaggedAs.head?_eq {first second : String} {props : Props}
    {lines : List Line} (hfirst : TaggedAs first props lines)
    (hsecond : TaggedAs second props lines) (hne : first.toList ≠ [])
    (hne' : second.toList ≠ []) :
    first.toList.head? = second.toList.head? := by
  obtain ⟨line, rest, text, hlines, htext⟩ := hfirst.first_text
  obtain ⟨line', rest', text', hlines', htext'⟩ := hsecond.first_text
  obtain ⟨rfl, _⟩ := List.cons.inj (hlines.symm.trans hlines')
  have hsame := congrArg String.toList (htext.symm.trans htext')
  simp only [String.toList_append, List.append_assoc] at hsame
  have htail := List.append_cancel_left hsame
  obtain ⟨letter, letters, hletters⟩ := List.exists_cons_of_ne_nil hne
  obtain ⟨letter', letters', hletters'⟩ := List.exists_cons_of_ne_nil hne'
  rw [hletters, hletters'] at htail ⊢
  rw [List.head?_cons, List.head?_cons, (List.cons.inj htail).1]

theorem tagName_of_notMem {tags : Entries String} {name : String}
    (hname : name ∉ Entries.keys tags) : tagName tags name = name := by
  have hnone : Entries.get? tags name = none := by
    rw [← Option.not_isSome_iff_eq_none]
    intro hsome
    obtain ⟨tag, hget⟩ := Option.isSome_iff_exists.mp hsome
    exact hname (List.mem_map_of_mem (Entries.mem_of_get?_eq_some hget))
  rw [tagName, hnone]
  rfl

private theorem defaultTag_head?_ne :
    ∀ name ∈ Entries.keys defaultTags,
      name.toList ≠ [] ∧ (tagName defaultTags name).toList ≠ [] ∧
        name.toList.head? ≠ (tagName defaultTags name).toList.head? := by
  decide

private theorem taggedAs_iff_of_default {name : String} {props : Props}
    {lines : List Line}
    (htagged : TaggedAs (tagName defaultTags name) props lines) :
    TaggedAs name props lines ↔ name ∉ Entries.keys defaultTags := by
  constructor
  · intro hname hkey
    obtain ⟨hne, hne', hheads⟩ := defaultTag_head?_ne name hkey
    exact hheads (hname.head?_eq htagged hne hne')
  · intro hkey
    rwa [tagName_of_notMem hkey] at htagged

/-! ## The place of a node -/

/-- The lines hold those of every node in one piece.  The first lines of the
nodes before it stand in front of them, and those of the nodes after it stand
further on. -/
structure Located (tags : Entries String) (nodes : List Node)
    (lines : List Line) : Prop where
  openers : (nodes.map (opener tags)).Sublist (lines.map Line.text)
  block : ∀ before node after, nodes = before ++ node :: after →
    ∃ start depth rest,
      lines = start ++ nodeLines tags node depth ++ rest ∧
        (before.map (opener tags)).Sublist (start.map Line.text) ∧
        ((node :: after).map (opener tags)).Sublist
          ((nodeLines tags node depth ++ rest).map Line.text)

namespace Located

variable {tags : Entries String} {nodes first second : List Node}
  {lines firstLines secondLines : List Line}

theorem nil (tags : Entries String) : Located tags [] [] where
  openers := by simp
  block := by simp

theorem append (hfirst : Located tags first firstLines)
    (hsecond : Located tags second secondLines) :
    Located tags (first ++ second) (firstLines ++ secondLines) := by
  refine ⟨?_, ?_⟩
  · rw [List.map_append, List.map_append]
    exact hfirst.openers.append hsecond.openers
  · intro before node after hsplit
    -- The node is one of the second nodes, or one of the first.
    have hcases : (∃ middle, before = first ++ middle ∧
        second = middle ++ node :: after) ∨
        ∃ middle, first = before ++ node :: middle ∧
          after = middle ++ second := by
      rcases List.append_eq_append_iff.mp hsplit with hleft | hright
      · exact Or.inl hleft
      · obtain ⟨middle, rfl, hmiddle⟩ := hright
        cases middle with
        | nil => exact Or.inl ⟨[], by simp, hmiddle.symm⟩
        | cons found middle =>
            obtain ⟨rfl, rfl⟩ := List.cons.inj hmiddle
            exact Or.inr ⟨middle, rfl, rfl⟩
    rcases hcases with ⟨middle, rfl, hmiddle⟩ | ⟨middle, hmiddle, rfl⟩
    · obtain ⟨start, depth, rest, rfl, hstart, hrest⟩ :=
        hsecond.block middle node after hmiddle
      refine ⟨firstLines ++ start, depth, rest, by simp, ?_, hrest⟩
      rw [List.map_append, List.map_append]
      exact hfirst.openers.append hstart
    · obtain ⟨start, depth, rest, rfl, hstart, hrest⟩ :=
        hfirst.block before node middle hmiddle
      refine ⟨start, depth, rest ++ secondLines, by simp, hstart, ?_⟩
      rw [← List.append_assoc, List.map_append, ← List.cons_append,
        List.map_append]
      exact hrest.append hsecond.openers

theorem enclose (hlocated : Located tags nodes lines)
    (front back : List Line) :
    Located tags nodes (front ++ lines ++ back) := by
  refine ⟨?_, ?_⟩
  · rw [List.map_append, List.map_append]
    exact (hlocated.openers.trans (List.sublist_append_right _ _)).trans
      (List.sublist_append_left _ _)
  · intro before node after hsplit
    obtain ⟨start, depth, rest, rfl, hstart, hrest⟩ :=
      hlocated.block before node after hsplit
    refine ⟨front ++ start, depth, rest ++ back, by simp, ?_, ?_⟩
    · rw [List.map_append]
      exact hstart.trans (List.sublist_append_right _ _)
    · rw [← List.append_assoc, List.map_append]
      exact hrest.trans (List.sublist_append_left _ _)

end Located

theorem nodeLines_conditional_of_ne (tags : Entries String)
    (condition : Expression) {children : List Node}
    (hne : ∀ child, children ≠ [child]) (depth : Nat) :
    nodeLines tags (.conditional condition children) depth =
      conditionalLines condition depth
        (fragmentLines (depth + 1) (nodesLines tags children (depth + 2))) := by
  rw [nodeLines]
  exact hne

/-- Behind the first line of a node, its lines hold those of its children in one
piece. -/
theorem exists_nodeLines_eq (tags : Entries String) (node : Node)
    (depth : Nat) :
    ∃ front childDepth back,
      nodeLines tags node depth =
        ⟨depth, opener tags node⟩ ::
          (front ++ nodesLines tags node.children childDepth ++ back) := by
  cases node with
  | element tag props children =>
      refine ⟨textLines props (depth + 1), depth + 1,
        ((closer? tags (.element tag props children)).map
          fun closer => ⟨depth, closer⟩).toList, ?_⟩
      rw [nodeLines, elementLines_eq tag props
        (nodesLines_written tags children (depth + 1))]
      rfl
  | conditional condition children =>
      by_cases hsingle : ∃ child, children = [child]
      · obtain ⟨child, rfl⟩ := hsingle
        refine ⟨[], depth + 1, [⟨depth, ") : null\x7d"⟩], ?_⟩
        rw [nodeLines, Node.children, nodesLines, nodesLines]
        simp [conditionalLines, opener]
      · rw [not_exists] at hsingle
        refine ⟨[⟨depth + 1, "<>"⟩], depth + 2,
          [⟨depth + 1, "</>"⟩, ⟨depth, ") : null\x7d"⟩], ?_⟩
        rw [nodeLines_conditional_of_ne tags condition hsingle]
        simp [conditionalLines, fragmentLines, opener, Node.children]
  | loop item source children =>
      refine ⟨
        [⟨depth + 1, "<React.Fragment key=" ++ braced (itemKey item) ++ ">"⟩],
        depth + 2, [⟨depth + 1, "</React.Fragment>"⟩, ⟨depth, "))\x7d"⟩], ?_⟩
      rw [nodeLines]
      simp [loopLines, opener, Node.children]

theorem nodeLines_located_of_children {tags : Entries String} {node : Node}
    (hchildren : ∀ childDepth, Located tags (Node.walkAll node.children)
      (nodesLines tags node.children childDepth)) (depth : Nat) :
    Located tags node.walk (nodeLines tags node depth) := by
  obtain ⟨front, childDepth, back, hlines⟩ :=
    exists_nodeLines_eq tags node depth
  have hinner := (hchildren childDepth).enclose front back
  have hopeners : ((node :: Node.walkAll node.children).map
      (opener tags)).Sublist ((nodeLines tags node depth).map Line.text) := by
    rw [hlines]
    exact hinner.openers.cons_cons (opener tags node)
  rw [Node.walk_eq_cons]
  refine ⟨hopeners, ?_⟩
  intro before found after hsplit
  cases before with
  | nil =>
      obtain ⟨rfl, rfl⟩ := List.cons.inj hsplit
      refine ⟨[], depth, [], by simp, by simp, ?_⟩
      rw [List.append_nil]
      exact hopeners
  | cons first before =>
      obtain ⟨rfl, hchild⟩ := List.cons.inj hsplit
      obtain ⟨start, foundDepth, rest, hmiddle, hstart, hrest⟩ :=
        hinner.block before found after hchild
      refine ⟨⟨depth, opener tags node⟩ :: start, foundDepth, rest, ?_,
        hstart.cons_cons (opener tags node), hrest⟩
      rw [hlines, hmiddle]
      simp

mutual

private theorem nodeLines_located (tags : Entries String) (node : Node)
    (depth : Nat) :
    Located tags node.walk (nodeLines tags node depth) := by
  match node with
  | .element tag props children =>
      exact nodeLines_located_of_children (nodesLines_located tags children)
        depth
  | .conditional condition children =>
      exact nodeLines_located_of_children (nodesLines_located tags children)
        depth
  | .loop item source children =>
      exact nodeLines_located_of_children (nodesLines_located tags children)
        depth

theorem nodesLines_located (tags : Entries String) (nodes : List Node)
    (depth : Nat) :
    Located tags (Node.walkAll nodes) (nodesLines tags nodes depth) := by
  match nodes with
  | [] =>
      rw [nodesLines, Node.walkAll]
      exact .nil tags
  | node :: rest =>
      rw [nodesLines, Node.walkAll]
      exact (nodeLines_located tags node depth).append
        (nodesLines_located tags rest depth)

end

theorem renderLines_located (tags : Entries String) (body : List Node)
    (depth : Nat) :
    Located tags (Node.walkAll body) (renderLines tags body depth) := by
  have hbody := (nodesLines_located tags body (depth + 2)).enclose
    [⟨depth, "return ("⟩, ⟨depth + 1, "<>"⟩]
    [⟨depth + 1, "</>"⟩, ⟨depth, ");"⟩]
  simpa [renderLines, fragmentLines] using hbody

end Markup

namespace Generator

private theorem definitionLines_located (generator : Generator)
    (definitions : List Definition) :
    Markup.Located generator.tags
      (definitions.flatMap fun definition => Node.walkAll definition.body)
      (definitions.flatMap generator.definitionLines) := by
  induction definitions with
  | nil => exact .nil _
  | cons definition rest ih =>
      have hbody :=
        (Markup.renderLines_located generator.tags definition.body 2).enclose
          [⟨1, signature generator.format "function" definition.name
            definition.paramNames⟩] [⟨1, "\x7d"⟩, ⟨0, ""⟩]
      rw [List.flatMap_cons, List.flatMap_cons]
      exact hbody.append ih

/-- What stands before the functions of the defined components. -/
def openingLines (generator : Generator) (program : Program)
    (scan : Binding.Scan) (partition : Binding.Partition) : List Line :=
  let parameters := Binding.parameters scan partition
  headerLines ++ generator.preamble program.definitions parameters ++
    ⟨0, signature generator.format "export default function"
      generator.componentName parameters⟩ :: stateLines partition.internal

theorem lines_eq (generator : Generator) (program : Program)
    (scan : Binding.Scan) (partition : Binding.Partition) :
    generator.lines program scan partition =
      generator.openingLines program scan partition ++
        (program.definitions.flatMap generator.definitionLines ++
          Markup.renderLines generator.tags program.body 1) ++
        [⟨0, "\x7d"⟩] := by
  simp [lines, exportLines, openingLines]

theorem lines_located (generator : Generator) (program : Program)
    (scan : Binding.Scan) (partition : Binding.Partition) :
    Markup.Located generator.tags program.nodes
      (generator.lines program scan partition) := by
  have hdefinitions := generator.definitionLines_located program.definitions
  have hbody := Markup.renderLines_located generator.tags program.body 1
  rw [lines_eq]
  exact (hdefinitions.append hbody).enclose _ _

theorem tagName_tags_of_notMem {generator : Generator} {name : String}
    (hname : name ∉ Entries.keys generator.tagOverrides) :
    Markup.tagName generator.tags name =
      Markup.tagName Markup.defaultTags name := by
  rw [Markup.tagName, tags, Entries.get?_setAll_of_notMem hname,
    Markup.tagName]

private theorem definitionLines_infix_lines (generator : Generator)
    {program : Program} {definition : Definition}
    (hdefined : definition ∈ program.definitions) (scan : Binding.Scan)
    (partition : Binding.Partition) :
    generator.definitionLines definition <:+:
      generator.lines program scan partition := by
  have hfunctions : generator.definitionLines definition <:+:
      program.definitions.flatMap generator.definitionLines := by
    rw [List.flatMap_def]
    exact List.infix_of_mem_flatten (List.mem_map_of_mem hdefined)
  rw [lines_eq]
  refine hfunctions.trans ?_
  exact ⟨generator.openingLines program scan partition,
    Markup.renderLines generator.tags program.body 1 ++ [⟨0, "\x7d"⟩],
    by simp⟩

/-- A component that is defined has its function in the module, and its elements
have its name as their tag if there is neither an override for it nor a default
tag.  Where there is a default tag, they have that one. -/
theorem defined_element_keeps_name_iff (generator : Generator)
    {program : Program} {definition : Definition}
    (hdefined : definition ∈ program.definitions)
    (hoverride :
      definition.name ∉ Entries.keys generator.tagOverrides)
    {props : Props} {children before after : List Node}
    (hnodes : program.nodes =
      before ++ .element definition.name props children :: after)
    (scan : Binding.Scan) (partition : Binding.Partition) :
    let opener := Markup.opener generator.tags
    let node := Node.element definition.name props children
    ∃ start depth rest,
      let block := Markup.nodeLines generator.tags node depth
      generator.emit program scan partition =
          Line.renderAll (start ++ block ++ rest) ∧
        generator.definitionLines definition <:+: start ++ block ++ rest ∧
        (before.map opener).Sublist (start.map Line.text) ∧
        ((node :: after).map opener).Sublist
          ((block ++ rest).map Line.text) ∧
        Markup.TaggedAs
          (Markup.tagName Markup.defaultTags definition.name) props block ∧
        (Markup.TaggedAs definition.name props block ↔
          definition.name ∉ Entries.keys Markup.defaultTags) := by
  intro opener node
  have hfunction :=
    generator.definitionLines_infix_lines hdefined scan partition
  obtain ⟨start, depth, rest, hlines, hstart, hrest⟩ :=
    (generator.lines_located program scan partition).block before node after
      hnodes
  have htagged := Markup.nodeLines_taggedAs generator.tags definition.name
    props children depth
  rw [tagName_tags_of_notMem hoverride] at htagged
  rw [hlines] at hfunction
  refine ⟨start, depth, rest, ?_, hfunction, hstart, hrest, htagged,
    Markup.taggedAs_iff_of_default htagged⟩
  rw [emit, hlines]

/-- Cards with a title. -/
def cardDefinition : Definition :=
  { name := "Card"
    params := [{ name := "title" }]
    body := [.element "Title" [("text", .expression (.of "title"))] []] }

def cardProps : Props :=
  [("title", .text "News"), ("bind", .text "open")]

/-- A page that shows a card in a row, on a condition. -/
def cardPage : Program :=
  { definitions := [cardDefinition]
    body :=
      [.conditional (.of "ready")
        [.element "Row" [] [.element "Card" cardProps
          [.element "Text" [("text", .text "None yet")] []]]]] }

def sectionGenerator : Generator :=
  { format := .tsx, tagOverrides := [("Row", "section")] }

theorem cardPage_keeps_name :
    "Card" ∉ Entries.keys sectionGenerator.tagOverrides ∧
      ∃ start depth rest,
        let scan := Binding.scan cardPage
        let block := Markup.nodeLines sectionGenerator.tags
          (.element "Card" cardProps
            [.element "Text" [("text", .text "None yet")] []]) depth
        sectionGenerator.emit cardPage scan scan.classify =
            Line.renderAll (start ++ block ++ rest) ∧
          Markup.TaggedAs "Card" cardProps block := by
  have hdefined : cardDefinition ∈ cardPage.definitions :=
    List.mem_singleton.mpr rfl
  have hoverride : cardDefinition.name ∉
      Entries.keys sectionGenerator.tagOverrides := by
    decide
  have hnodes : cardPage.nodes =
      (Node.walkAll cardDefinition.body ++ (Node.walkAll cardPage.body).take 2)
        ++ .element cardDefinition.name cardProps
          [.element "Text" [("text", .text "None yet")] []] ::
        [.element "Text" [("text", .text "None yet")] []] := rfl
  obtain ⟨start, depth, rest, hemit, _, _, _, _, hkeeps⟩ :=
    defined_element_keeps_name_iff sectionGenerator hdefined hoverride hnodes
      (Binding.scan cardPage) (Binding.scan cardPage).classify
  exact ⟨hoverride, start, depth, rest, hemit, hkeeps.mpr (by decide)⟩

/-- A page that defines buttons of its own and shows one. -/
def buttonPage : Program :=
  { definitions := [{ name := "Button", params := [{ name := "label" }] }]
    body := [.element "Button" [("label", .text "Go")] []] }

/-- The module has the function of the button, but does not use it. -/
theorem defined_button_loses_name :
    let scan := Binding.scan buttonPage
    let lines :=
      ({ format := .jsx } : Generator).lines buttonPage scan scan.classify
    ⟨1, "function Button(\x7b label \x7d) \x7b"⟩ ∈ lines ∧
      ⟨3, "<button label=\"Go\" />"⟩ ∈ lines ∧
      ∀ line ∈ lines, ¬"<Button".toList <+: line.text.toList := by
  decide +kernel

end Generator

end ViewCompiler
