import ViewCompiler.Output.Markup
import ViewCompiler.Proofs.Program.Places
import Mathlib.Algebra.GroupWithZero.Nat

/-!
# Nesting of the generated markup

Written markup is a word of brackets: tags, conditional expressions, calls of
`map`, and the return statement around them all.  `Nested` is its grammar.  A
pair of brackets stands at one depth and what it encloses one step further in,
so the indentation of every line follows from the grammar.

Nodes are written by three emitters that step in differently and have cases of
their own for a single child, for no content and for a text.  The invariant
`Written` says of the lines of nodes that they are nested, that the first lines
of all nodes are among them in the order of a walk, and how many they are; each
emitter keeps it.
-/

namespace ViewCompiler

namespace Line

theorem indent_succ_eq_append (depth : Nat) :
    indent (depth + 1) = indent depth ++ indentStep := by
  induction depth with
  | zero => rfl
  | succ depth ih =>
      calc
        indent (depth + 2) = indentStep ++ indent (depth + 1) := rfl
        _ = indentStep ++ (indent depth ++ indentStep) := by rw [ih]
        _ = indent (depth + 1) ++ indentStep := by
          rw [← String.append_assoc]
          rfl

end Line

namespace Markup

/-- A written line starts with at least the given steps of indentation. -/
def Indented (depth : Nat) (line : String) : Prop :=
  ∃ text, line = Line.indent depth ++ text

/-- A written line starts with the given steps of indentation and no more. -/
def StandsAt (depth : Nat) (line : String) : Prop :=
  ∃ text, line = Line.indent depth ++ text ∧ text.toList.head? ≠ some ' '

theorem Indented.of_succ {depth : Nat} {line : String}
    (hline : Indented (depth + 1) line) : Indented depth line := by
  obtain ⟨text, rfl⟩ := hline
  exact ⟨Line.indentStep ++ text, by
    rw [Line.indent_succ_eq_append, String.append_assoc]⟩

/-! ## The grammar of written markup -/

/-- A tag up to its end: its name, and each attribute after a blank. -/
def tagStart (name : String) (attributes : List String) : String :=
  "<" ++ name ++ String.join (attributes.map (" " ++ ·))

/-- The texts of two lines that enclose those between them. -/
inductive Brackets : String → String → Prop
  | tag (name : String) (attributes : List String) :
      Brackets (tagStart name attributes ++ ">") ("</" ++ name ++ ">")
  | conditional (condition : String) :
      Brackets ("\x7b" ++ condition ++ " ? (") ") : null\x7d"
  | loop (source binders : String) :
      Brackets ("\x7b" ++ source ++ ".map((" ++ binders ++ ") => (") "))\x7d"
  | result : Brackets "return (" ");"

/-- Written lines that are properly nested at a depth. -/
inductive Nested : Nat → List String → Prop
  | nil (depth : Nat) : Nested depth []
  | append {depth : Nat} {first second : List String}
      (hfirst : Nested depth first) (hsecond : Nested depth second) :
      Nested depth (first ++ second)
  | single (depth : Nat) (name : String) (attributes : List String) :
      Nested depth [Line.indent depth ++ (tagStart name attributes ++ " />")]
  | block {depth : Nat} {opener closer : String} {inner : List String}
      (hbrackets : Brackets opener closer) (hinner : Nested (depth + 1) inner) :
      Nested depth
        ((Line.indent depth ++ opener) :: inner ++
          [Line.indent depth ++ closer])
  /-- Only a tag has a text, and the text is what comes first in it. -/
  | labelled {depth : Nat} {inner : List String} (name : String)
      (attributes : List String) (text : String)
      (hinner : Nested (depth + 1) inner) :
      Nested depth
        ((Line.indent depth ++ (tagStart name attributes ++ ">")) ::
          (Line.indent (depth + 1) ++ text) :: inner ++
          [Line.indent depth ++ ("</" ++ name ++ ">")])

theorem Nested.indented {depth : Nat} {lines : List String}
    (hnested : Nested depth lines) : ∀ line ∈ lines, Indented depth line := by
  induction hnested with
  | nil depth => simp
  | append _ _ ihfirst ihsecond =>
      intro line hline
      rcases List.mem_append.mp hline with hline | hline
      · exact ihfirst line hline
      · exact ihsecond line hline
  | single depth name attributes =>
      intro line hline
      exact ⟨_, List.mem_singleton.mp hline⟩
  | block _ _ ih =>
      intro line hline
      rw [List.cons_append, List.mem_cons, List.mem_append,
        List.mem_singleton] at hline
      rcases hline with hline | hline | hline
      · exact ⟨_, hline⟩
      · exact (ih line hline).of_succ
      · exact ⟨_, hline⟩
  | labelled name attributes text _ ih =>
      intro line hline
      rw [List.cons_append, List.cons_append, List.mem_cons, List.mem_cons,
        List.mem_append, List.mem_singleton] at hline
      rcases hline with hline | hline | hline | hline
      · exact ⟨_, hline⟩
      · exact Indented.of_succ ⟨_, hline⟩
      · exact (ih line hline).of_succ
      · exact ⟨_, hline⟩

/-! ## What is to be written of a node -/

/-- An element holds nothing: neither a text nor children. -/
def isBare (props : Props) (children : List Node) : Bool :=
  !Entries.has props "text" && children.isEmpty

/-- The text of a node's first line. -/
def opener (tags : Entries String) : Node → String
  | .element tag props children =>
    opening (tagName tags tag) props ++
      if isBare props children then " />" else ">"
  | .conditional condition _ => "\x7b" ++ condition.text ++ " ? ("
  | .loop item source _ =>
    "\x7b" ++ receiver source ++ ".map((" ++
      ", ".intercalate (loopBinders item) ++ ") => ("

/-- The text of a node's last line, unless its first line is its only one. -/
def closer? (tags : Entries String) : Node → Option String
  | .element tag props children =>
    if isBare props children then none
    else some ("</" ++ tagName tags tag ++ ">")
  | .conditional _ _ => some ") : null\x7d"
  | .loop _ _ _ => some "))\x7d"

/-- The number of lines that a node has of its own, besides those of its
children. -/
def ownLines : Node → Nat
  | .element _ props children =>
    if isBare props children then 1
    else 2 + if Entries.has props "text" then 1 else 0
  | .conditional _ [_] => 2
  | .conditional _ _ => 4
  | .loop _ _ _ => 4

theorem opening_eq_tagStart (tag : String) (props : Props) :
    opening tag props = tagStart tag (attributes props) := rfl

private theorem brackets_of_closer? {tags : Entries String} {node : Node}
    {closer : String} (hcloser : closer? tags node = some closer) :
    Brackets (opener tags node) closer := by
  cases node with
  | element tag props children =>
      cases hbare : isBare props children with
      | true => simp [closer?, hbare] at hcloser
      | false =>
          simp only [closer?, hbare, Bool.false_eq_true, if_false,
            Option.some.injEq] at hcloser
          subst hcloser
          simp only [opener, hbare, Bool.false_eq_true, if_false,
            opening_eq_tagStart]
          exact .tag _ _
  | conditional condition children =>
      obtain rfl := Option.some.inj hcloser
      exact .conditional condition.text
  | loop item source children =>
      obtain rfl := Option.some.inj hcloser
      exact .loop _ _

private theorem standsAt_opener (tags : Entries String) (node : Node)
    (depth : Nat) :
    StandsAt depth (Line.indent depth ++ opener tags node) := by
  refine ⟨_, rfl, ?_⟩
  cases node with
  | element tag props children => simp [opener, opening]
  | conditional condition children => simp [opener]
  | loop item source children => simp [opener]

theorem Brackets.standsAt_closer {opener closer : String}
    (hbrackets : Brackets opener closer) (depth : Nat) :
    StandsAt depth (Line.indent depth ++ closer) := by
  refine ⟨closer, rfl, ?_⟩
  cases hbrackets with
  | tag name attributes => simp
  | conditional condition => simp
  | loop source binders => simp
  | result => simp

private theorem ownLines_pos (node : Node) : 0 < ownLines node := by
  unfold ownLines
  split
  · split <;> omega
  all_goals omega

/-! ## The lines of nodes -/

theorem walkAll_singleton (node : Node) :
    Node.walkAll [node] = node :: Node.walkAll node.children := by
  simp [Node.walkAll, Node.walk_eq_cons]

/-- The lines are those of the nodes at a depth: properly nested, with the first
lines of all nodes in the order of a walk, and of the right number. -/
structure Written (tags : Entries String) (nodes : List Node) (depth : Nat)
    (lines : List Line) : Prop where
  nested : Nested depth (lines.map Line.render)
  openers :
    ((Node.walkAll nodes).map (opener tags)).Sublist (lines.map Line.text)
  length_eq : lines.length = ((Node.walkAll nodes).map ownLines).sum

namespace Written

variable {tags : Entries String} {node : Node} {nodes : List Node}
  {depth childDepth : Nat} {lines first second inner : List Line}

theorem nil (tags : Entries String) (depth : Nat) :
    Written tags [] depth [] where
  nested := .nil depth
  openers := by simp [Node.walkAll]
  length_eq := by simp [Node.walkAll]

theorem cons (hnode : Written tags [node] depth first)
    (hrest : Written tags nodes depth second) :
    Written tags (node :: nodes) depth (first ++ second) := by
  have hwalk : Node.walkAll (node :: nodes) =
      Node.walkAll [node] ++ Node.walkAll nodes := by
    simp [Node.walkAll]
  refine ⟨?_, ?_, ?_⟩
  · rw [List.map_append]
    exact hnode.nested.append hrest.nested
  · rw [hwalk, List.map_append, List.map_append]
    exact hnode.openers.append hrest.openers
  · rw [hwalk, List.map_append, List.sum_append, List.length_append,
      hnode.length_eq, hrest.length_eq]

/-- No node is left without a line. -/
theorem eq_nil_iff (hwritten : Written tags nodes depth lines) :
    lines = [] ↔ nodes = [] := by
  rw [← List.length_eq_zero_iff, hwritten.length_eq]
  cases nodes with
  | nil => simp [Node.walkAll]
  | cons node rest =>
      have hpos := ownLines_pos node
      simp [Node.walkAll, Node.walk_eq_cons]
      omega

/-- A node is written by its first line, further lines of its own, and the lines
of its children in the middle of them. -/
theorem enclose (before after : List Line)
    (hinner : Written tags node.children childDepth inner)
    (hlines : lines = ⟨depth, opener tags node⟩ :: before ++ inner ++ after)
    (hnested : Nested depth (lines.map Line.render))
    (hown : ownLines node = 1 + before.length + after.length) :
    Written tags [node] depth lines := by
  refine ⟨hnested, ?_, ?_⟩
  · have hmiddle : ((Node.walkAll node.children).map (opener tags)).Sublist
        ((before ++ inner ++ after).map Line.text) := by
      rw [List.map_append, List.map_append]
      exact (hinner.openers.trans (List.sublist_append_right _ _)).trans
        (List.sublist_append_left _ _)
    rw [walkAll_singleton, hlines]
    exact hmiddle.cons_cons (opener tags node)
  · rw [walkAll_singleton, hlines]
    simp only [List.cons_append, List.length_cons, List.length_append,
      List.map_cons, List.sum_cons, hinner.length_eq, hown]
    omega

end Written

section Emitters

variable {tags : Entries String} {props : Props} {children : List Node}
  {depth : Nat} {inner : List Line}

theorem textLines_of_text {value : PropValue}
    (htext : Entries.get? props "text" = some value) (depth : Nat) :
    textLines props depth = [⟨depth, textContent value⟩] := by
  simp [textLines, htext]

theorem textLines_of_no_text (htext : Entries.get? props "text" = none)
    (depth : Nat) : textLines props depth = [] := by
  simp [textLines, htext]

theorem length_textLines (props : Props) (depth : Nat) :
    (textLines props depth).length =
      if Entries.has props "text" then 1 else 0 := by
  unfold Entries.has
  cases htext : Entries.get? props "text" with
  | none => simp [textLines_of_no_text htext]
  | some value => simp [textLines_of_text htext]

theorem content_eq_nil_iff (props : Props)
    (hinner : Written tags children (depth + 1) inner) :
    textLines props (depth + 1) ++ inner = [] ↔
      isBare props children = true := by
  have htext : textLines props (depth + 1) = [] ↔
      Entries.has props "text" = false := by
    rw [← List.length_eq_zero_iff, length_textLines]
    cases Entries.has props "text" <;> simp
  rw [List.append_eq_nil_iff, htext, hinner.eq_nil_iff]
  simp [isBare]

/-- The lines of an element with its text and its children. -/
theorem elementLines_eq (tag : String) (props : Props)
    (hinner : Written tags children (depth + 1) inner) :
    elementLines (tagName tags tag) props depth
        (textLines props (depth + 1) ++ inner) =
      ⟨depth, opener tags (.element tag props children)⟩ ::
        (textLines props (depth + 1) ++ inner) ++
          ((closer? tags (.element tag props children)).map
            fun closer => ⟨depth, closer⟩).toList := by
  have hempty := content_eq_nil_iff props hinner
  unfold elementLines
  cases hbare : isBare props children with
  | true => simp [opener, closer?, hbare, hempty.mpr hbare]
  | false =>
      have hcontent : textLines props (depth + 1) ++ inner ≠ [] := by
        rw [Ne, hempty, hbare]
        exact Bool.false_ne_true
      rw [if_neg (by simpa using hcontent)]
      simp [opener, closer?, hbare]

private theorem nested_element (tag : String)
    (hinner : Written tags children (depth + 1) inner) :
    Nested depth
      ((elementLines (tagName tags tag) props depth
        (textLines props (depth + 1) ++ inner)).map Line.render) := by
  unfold elementLines
  split
  · exact .single depth (tagName tags tag) (attributes props)
  · cases htext : Entries.get? props "text" with
    | none =>
        rw [textLines_of_no_text htext, List.nil_append, List.cons_append,
          List.map_cons, List.map_append]
        exact .block (.tag (tagName tags tag) (attributes props)) hinner.nested
    | some value =>
        rw [textLines_of_text htext, List.cons_append, List.map_cons,
          List.map_append, List.map_append]
        exact .labelled (tagName tags tag) (attributes props)
          (textContent value) hinner.nested

private theorem elementLines_written (tag : String)
    (hinner : Written tags children (depth + 1) inner) :
    Written tags [.element tag props children] depth
      (elementLines (tagName tags tag) props depth
        (textLines props (depth + 1) ++ inner)) := by
  have hown : ownLines (.element tag props children) =
      1 + (textLines props (depth + 1)).length +
        ((closer? tags (.element tag props children)).map
          fun closer => (⟨depth, closer⟩ : Line)).toList.length := by
    rw [length_textLines]
    cases hbare : isBare props children with
    | true =>
        have hnone : Entries.has props "text" = false := by
          simp only [isBare, Bool.and_eq_true, Bool.not_eq_true'] at hbare
          exact hbare.1
        simp [ownLines, closer?, hbare, hnone]
    | false =>
        simp only [ownLines, closer?, hbare, Bool.false_eq_true, if_false,
          Option.map_some, Option.toList_some, List.length_singleton]
        omega
  refine Written.enclose _ _ hinner ?_ (nested_element tag hinner) hown
  rw [elementLines_eq tag props hinner]
  simp

private theorem brackets_fragment : Brackets "<>" "</>" :=
  .tag "" []

theorem brackets_item (item : String) :
    Brackets ("<React.Fragment key=" ++ braced (itemKey item) ++ ">")
      "</React.Fragment>" := by
  have hstart : "<React.Fragment key=" ++ braced (itemKey item) =
      tagStart "React.Fragment" ["key=" ++ braced (itemKey item)] := by
    have hattribute : String.join [" " ++ ("key=" ++ braced (itemKey item))] =
        " key=" ++ braced (itemKey item) := by
      simp [String.join, ← String.append_assoc]
    rw [tagStart, List.map_singleton, hattribute, ← String.append_assoc]
    rfl
  rw [hstart]
  exact .tag "React.Fragment" _

private theorem nested_fragment
    (hinner : Nested (depth + 1) (inner.map Line.render)) :
    Nested depth ((fragmentLines depth inner).map Line.render) := by
  unfold fragmentLines
  rw [List.cons_append, List.map_cons, List.map_append]
  exact .block brackets_fragment hinner

private theorem nested_conditional (condition : Expression)
    (hinner : Nested (depth + 1) (inner.map Line.render)) :
    Nested depth ((conditionalLines condition depth inner).map Line.render) := by
  unfold conditionalLines
  rw [List.cons_append, List.map_cons, List.map_append]
  exact .block (.conditional condition.text) hinner

private theorem nested_loop (item : String) (source : Expression)
    (hinner : Nested (depth + 2) (inner.map Line.render)) :
    Nested depth ((loopLines item source depth inner).map Line.render) := by
  have hitem := Nested.block (brackets_item item) hinner
  have hloop := Nested.block (.loop (receiver source)
    (", ".intercalate (loopBinders item))) hitem
  simpa [loopLines, Line.render] using hloop

/-- A conditional block with one child holds it as it is. -/
theorem conditionalLines_written_of_single (condition : Expression)
    {child : Node} (hinner : Written tags [child] (depth + 1) inner) :
    Written tags [.conditional condition [child]] depth
      (conditionalLines condition depth inner) :=
  Written.enclose [] [⟨depth, ") : null\x7d"⟩] hinner
    (by simp [conditionalLines, opener])
    (nested_conditional condition hinner.nested) rfl

/-- One with no child or with several holds them in a fragment. -/
theorem conditionalLines_written (condition : Expression)
    (hinner : Written tags children (depth + 2) inner)
    (hown : ownLines (.conditional condition children) = 4) :
    Written tags [.conditional condition children] depth
      (conditionalLines condition depth (fragmentLines (depth + 1) inner)) :=
  Written.enclose [⟨depth + 1, "<>"⟩]
    [⟨depth + 1, "</>"⟩, ⟨depth, ") : null\x7d"⟩] hinner
    (by simp [conditionalLines, fragmentLines, opener])
    (nested_conditional condition (nested_fragment hinner.nested)) hown

private theorem loopLines_written (item : String) (source : Expression)
    (hinner : Written tags children (depth + 2) inner) :
    Written tags [.loop item source children] depth
      (loopLines item source depth inner) :=
  Written.enclose
    [⟨depth + 1, "<React.Fragment key=" ++ braced (itemKey item) ++ ">"⟩]
    [⟨depth + 1, "</React.Fragment>"⟩, ⟨depth, "))\x7d"⟩] hinner
    (by simp [loopLines, opener])
    (nested_loop item source hinner.nested) rfl

end Emitters

mutual

theorem nodeLines_written (tags : Entries String) (node : Node) (depth : Nat) :
    Written tags [node] depth (nodeLines tags node depth) := by
  match node with
  | .element tag props children =>
      rw [nodeLines]
      exact elementLines_written tag
        (nodesLines_written tags children (depth + 1))
  -- One child steps in by one, and none or several by two.
  | .conditional condition [] =>
      rw [nodeLines]
      · exact conditionalLines_written condition
          (nodesLines_written tags [] (depth + 2)) rfl
      · simp
  | .conditional condition [child] =>
      rw [nodeLines]
      exact conditionalLines_written_of_single condition
        (nodeLines_written tags child (depth + 1))
  | .conditional condition (first :: second :: rest) =>
      rw [nodeLines]
      · exact conditionalLines_written condition
          (nodesLines_written tags (first :: second :: rest) (depth + 2)) rfl
      · simp
  | .loop item source children =>
      rw [nodeLines]
      exact loopLines_written item source
        (nodesLines_written tags children (depth + 2))

theorem nodesLines_written (tags : Entries String) (nodes : List Node)
    (depth : Nat) : Written tags nodes depth (nodesLines tags nodes depth) := by
  match nodes with
  | [] =>
      rw [nodesLines]
      exact .nil tags depth
  | node :: rest =>
      rw [nodesLines]
      exact (nodeLines_written tags node depth).cons
        (nodesLines_written tags rest depth)

end

/-! ## Single nodes and whole bodies -/

private theorem nodeLines_conditional (tags : Entries String)
    (condition : Expression) (children : List Node) (depth : Nat) :
    ∃ inner, Nested (depth + 1) (inner.map Line.render) ∧
      nodeLines tags (.conditional condition children) depth =
        conditionalLines condition depth inner := by
  match children with
  | [] =>
      refine ⟨_, ?_, by rw [nodeLines]; simp⟩
      exact nested_fragment (nodesLines_written tags [] (depth + 2)).nested
  | [child] =>
      refine ⟨_, ?_, by rw [nodeLines]⟩
      exact (nodeLines_written tags child (depth + 1)).nested
  | first :: second :: rest =>
      refine ⟨_, ?_, by rw [nodeLines]; simp⟩
      exact nested_fragment
        (nodesLines_written tags (first :: second :: rest) (depth + 2)).nested

/-- What a node holds is written between its first and its last line. -/
theorem nodeLines_eq (tags : Entries String) (node : Node) (depth : Nat) :
    ∃ inner,
      nodeLines tags node depth =
        ⟨depth, opener tags node⟩ :: inner ++
          ((closer? tags node).map fun closer => ⟨depth, closer⟩).toList ∧
        (closer? tags node = none → inner = []) ∧
        ∀ line ∈ inner.map Line.render, Indented (depth + 1) line := by
  cases node with
  | element tag props children =>
      have hchildren := nodesLines_written tags children (depth + 1)
      refine ⟨textLines props (depth + 1) ++
        nodesLines tags children (depth + 1), ?_, ?_, ?_⟩
      · rw [nodeLines, elementLines_eq tag props hchildren]
      · intro hnone
        rw [content_eq_nil_iff props hchildren]
        simpa [closer?] using hnone
      · intro line hline
        rw [List.map_append] at hline
        rcases List.mem_append.mp hline with hline | hline
        · obtain ⟨_, htext, rfl⟩ := List.mem_map.mp hline
          obtain ⟨value, _, rfl⟩ := by simpa [textLines] using htext
          exact ⟨_, rfl⟩
        · exact hchildren.nested.indented line hline
  | conditional condition children =>
      obtain ⟨inner, hnested, hlines⟩ :=
        nodeLines_conditional tags condition children depth
      exact ⟨inner, hlines, by simp [closer?], hnested.indented⟩
  | loop item source children =>
      have hchildren := nodesLines_written tags children (depth + 2)
      have hitem := Nested.block (brackets_item item) hchildren.nested
      refine ⟨⟨depth + 1, "<React.Fragment key=" ++ braced (itemKey item) ++
        ">"⟩ :: nodesLines tags children (depth + 2) ++
          [⟨depth + 1, "</React.Fragment>"⟩], ?_, by simp [closer?], ?_⟩
      · simp [nodeLines, loopLines, opener, closer?]
      · simpa [Line.render] using hitem.indented

/-- The written lines of a node at a depth stand in order: its first line and
its last one at that depth, each the match of the other, and all others further
in.  A node without a last line has one line only, a tag that closes itself. -/
structure Enclosed (tags : Entries String) (node : Node) (depth : Nat)
    (lines : List String) : Prop where
  indented : ∀ line ∈ lines, Indented depth line
  first : StandsAt depth (Line.indent depth ++ opener tags node)
  alone : closer? tags node = none →
    lines = [Line.indent depth ++ opener tags node] ∧
      ∃ name attributes, opener tags node = tagStart name attributes ++ " />"
  between : ∀ closer, closer? tags node = some closer →
    Brackets (opener tags node) closer ∧
      StandsAt depth (Line.indent depth ++ closer) ∧
      ∃ inner,
        lines = (Line.indent depth ++ opener tags node) :: inner ++
            [Line.indent depth ++ closer] ∧
          ∀ line ∈ inner, Indented (depth + 1) line

private theorem nodeLines_enclosed (tags : Entries String) (node : Node)
    (depth : Nat) :
    Enclosed tags node depth
      ((nodeLines tags node depth).map Line.render) := by
  obtain ⟨inner, hlines, hempty, hinner⟩ := nodeLines_eq tags node depth
  refine ⟨(nodeLines_written tags node depth).nested.indented,
    standsAt_opener tags node depth, ?_, ?_⟩
  · intro hnone
    refine ⟨?_, ?_⟩
    · rw [hlines, hempty hnone, hnone]
      rfl
    · cases node with
      | element tag props children =>
          have hbare : isBare props children = true := by
            simpa [closer?] using hnone
          rw [opener, if_pos hbare, opening_eq_tagStart]
          exact ⟨tagName tags tag, attributes props, rfl⟩
      | conditional condition children => contradiction
      | loop item source children => contradiction
  · intro closer hcloser
    have hbrackets := brackets_of_closer? hcloser
    refine ⟨hbrackets, hbrackets.standsAt_closer depth,
      inner.map Line.render, ?_, hinner⟩
    rw [hlines, hcloser, List.map_append, List.map_cons]
    rfl

/-- The markup of every node is properly nested, and stands between the node's
own first and last line with everything else further in.  The return statement
for a body is properly nested too.  It has the first lines of all nodes of the
body in the order of a walk, and no other lines than the nodes' own and the four
around them. -/
theorem markup_nested_and_complete (tags : Entries String) :
    (∀ node depth,
      Nested depth ((nodeLines tags node depth).map Line.render) ∧
        Enclosed tags node depth
          ((nodeLines tags node depth).map Line.render)) ∧
    ∀ body depth,
      Nested depth ((renderLines tags body depth).map Line.render) ∧
        (∀ line ∈ (renderLines tags body depth).map Line.render,
          Indented depth line) ∧
        ((Node.walkAll body).map (opener tags)).Sublist
          ((renderLines tags body depth).map Line.text) ∧
        (renderLines tags body depth).length =
          4 + ((Node.walkAll body).map ownLines).sum := by
  refine ⟨?_, ?_⟩
  · intro node depth
    exact ⟨(nodeLines_written tags node depth).nested,
      nodeLines_enclosed tags node depth⟩
  · intro body depth
    have hbody := nodesLines_written tags body (depth + 2)
    have hnested :
        Nested depth ((renderLines tags body depth).map Line.render) := by
      unfold renderLines
      rw [List.cons_append, List.map_cons, List.map_append]
      exact .block .result (nested_fragment hbody.nested)
    refine ⟨hnested, hnested.indented, ?_, ?_⟩
    · have htexts : (renderLines tags body depth).map Line.text =
          ["return (", "<>"] ++
            (nodesLines tags body (depth + 2)).map Line.text ++
            ["</>", ");"] := by
        simp [renderLines, fragmentLines]
      rw [htexts]
      exact (hbody.openers.trans (List.sublist_append_right _ _)).trans
        (List.sublist_append_left _ _)
    · simp only [renderLines, fragmentLines, List.length_cons,
        List.length_append, List.cons_append, hbody.length_eq,
        List.length_nil]
      omega

end Markup
end ViewCompiler
