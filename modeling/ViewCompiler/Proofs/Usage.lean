import ViewCompiler.Proofs.Binding.ContentOrder
import ViewCompiler.Usage

/-!
# Evidence for the values of a parameter

The profile of a parameter is read off what the nodes of a body show, each by
itself.  What a node shows depends on its content alone, so the profile depends
on the contents that occur in the body: it is the same in any order and
nesting, and the flags of two bodies together are those of the one or of the
other.  A property shows one thing at most.  A node shows nothing of a
parameter that none of its expressions refers to.

A reference is described here by its surroundings: the name stands in the text
with neither a character of a name nor a dot before it, and with no character
of a name behind it.
-/

namespace ViewCompiler

namespace PropValue

def expression? : PropValue → Option Expression
  | literal _ => none
  | expression e => some e

end PropValue

namespace Node

/-- The expressions that a node itself is written with. -/
def expressions : Node → List Expression
  | .element _ props _ => props.filterMap fun prop => prop.2.expression?
  | .conditional condition _ => [condition]
  | .loop _ source _ => [source]

/-- The contents that occur in a body. -/
def contentsOf (body : List Node) : Set Content :=
  ({ body } : Program).contents

theorem mem_contentsOf_iff {body : List Node} {content : Content} :
    content ∈ contentsOf body ↔ ∃ node ∈ walkAll body, node.content = content :=
  Iff.rfl

/-- The properties of all nodes of a body are mappings. -/
def PropsDistinctIn (body : List Node) : Prop :=
  ∀ node ∈ walkAll body, node.PropsDistinct

/-- What a content shows about a parameter. -/
def Content.Shows (name : String) (found : Evidence) : Content → Prop
  | .element _ property? => ∃ key value, property? key = some value ∧
      Usage.propEvidence name key value = some found
  | .conditional condition =>
      Usage.refersTo name condition.text = true ∧ found = .conditional
  | .loop _ source => source.text = name ∧ found = .array

end Node

namespace Usage

/-! ## References in a text -/

/-- The name occurs in the text as a reference. -/
def Occurs (name text : String) : Prop :=
  ∃ before after : List Char,
    text.toList = before ++ name.toList ++ after ∧
      (∀ c ∈ before.getLast?, ¬(Text.isWord c = true ∨ c = '$' ∨ c = '.')) ∧
      ∀ c ∈ after.head?, ¬(Text.isWord c = true ∨ c = '$')

theorem mem_cutsAfter_iff {front chars found back : List Char} :
    (found, back) ∈ cutsAfter front chars ↔
      ∃ taken, chars = taken ++ back ∧ found = taken.reverse ++ front := by
  induction chars generalizing front with
  | nil => simp [cutsAfter, and_comm]
  | cons c rest ih =>
      rw [cutsAfter, List.mem_cons, ih]
      constructor
      · rintro (hhere | ⟨taken, hrest, hfound⟩)
        · obtain ⟨rfl, rfl⟩ := Prod.mk.inj hhere
          exact ⟨[], rfl, rfl⟩
        · refine ⟨c :: taken, by rw [hrest, List.cons_append], ?_⟩
          simpa using hfound
      · rintro ⟨taken, hchars, hfound⟩
        cases taken with
        | nil => exact Or.inl (by simp_all)
        | cons d taken =>
            obtain ⟨rfl, hrest⟩ := List.cons.inj hchars
            exact Or.inr ⟨taken, hrest, by simpa using hfound⟩

theorem mem_cuts_iff {text : String} {front back : List Char} :
    (front, back) ∈ cuts text ↔ text.toList = front.reverse ++ back := by
  rw [cuts, mem_cutsAfter_iff]
  constructor
  · rintro ⟨taken, htext, hfront⟩
    rw [htext, hfront, List.append_nil, List.reverse_reverse]
  · intro htext
    exact ⟨front.reverse, htext, by simp⟩

theorem afterWord_eq_some_iff {word chars rest : List Char} :
    afterWord word chars = some rest ↔ chars = word ++ rest := by
  induction word generalizing chars with
  | nil => simp [afterWord, eq_comm]
  | cons c word ih =>
      cases chars with
      | nil => simp [afterWord]
      | cons d chars =>
          by_cases hchar : c = d
          · simp [afterWord, hchar, ih]
          · simp [afterWord, hchar, Ne.symm hchar]

theorem any_precedesName_eq_false_iff {found : Option Char} :
    found.any precedesName = false ↔
      ∀ c ∈ found, ¬(Text.isWord c = true ∨ c = '$' ∨ c = '.') := by
  simp [Option.any_eq_false, precedesName, continuesName, and_assoc]

theorem any_continuesName_eq_false_iff {found : Option Char} :
    found.any continuesName = false ↔
      ∀ c ∈ found, ¬(Text.isWord c = true ∨ c = '$') := by
  simp [Option.any_eq_false, continuesName]

theorem mem_references_iff {name text : String} {front rest : List Char} :
    (front, rest) ∈ references name text ↔
      text.toList = front.reverse ++ (name.toList ++ rest) ∧
        front.head?.any precedesName = false ∧
        rest.head?.any continuesName = false := by
  unfold references
  rw [List.mem_filterMap]
  constructor
  · rintro ⟨⟨found, back⟩, hcut, hkept⟩
    rw [mem_cuts_iff] at hcut
    dsimp only at hkept
    cases hbefore : found.head?.any precedesName with
    | true => simp [hbefore] at hkept
    | false =>
        cases hword : afterWord name.toList back with
        | none => simp [hbefore, hword] at hkept
        | some after =>
            cases hbehind : after.head?.any continuesName with
            | true => simp [hbefore, hword, hbehind] at hkept
            | false =>
                simp only [hbefore, hword, hbehind, Bool.false_eq_true,
                  if_false, Option.some.injEq, Prod.mk.injEq] at hkept
                obtain ⟨rfl, rfl⟩ := hkept
                rw [afterWord_eq_some_iff.mp hword] at hcut
                exact ⟨hcut, hbefore, hbehind⟩
  · rintro ⟨htext, hbefore, hbehind⟩
    refine ⟨(front, name.toList ++ rest), mem_cuts_iff.mpr htext, ?_⟩
    have hword : afterWord name.toList (name.toList ++ rest) = some rest :=
      afterWord_eq_some_iff.mpr rfl
    simp [hbefore, hword, hbehind]

theorem refersTo_iff_occurs {name text : String} :
    refersTo name text = true ↔ Occurs name text := by
  have hsome : refersTo name text = true ↔
      ∃ reference, reference ∈ references name text := by
    rw [refersTo, Bool.not_eq_true', List.isEmpty_eq_false_iff_exists_mem]
  rw [hsome]
  constructor
  · rintro ⟨⟨front, rest⟩, hreference⟩
    obtain ⟨htext, hbefore, hbehind⟩ := mem_references_iff.mp hreference
    refine ⟨front.reverse, rest, by rw [htext, List.append_assoc], ?_, ?_⟩
    · rw [List.getLast?_reverse, ← any_precedesName_eq_false_iff]
      exact hbefore
    · rw [← any_continuesName_eq_false_iff]
      exact hbehind
  · rintro ⟨before, after, htext, hbefore, hbehind⟩
    refine ⟨(before.reverse, after), mem_references_iff.mpr ⟨?_, ?_, ?_⟩⟩
    · rw [htext, List.reverse_reverse, List.append_assoc]
    · rw [any_precedesName_eq_false_iff, List.head?_reverse]
      exact hbefore
    · rw [any_continuesName_eq_false_iff]
      exact hbehind

private theorem occurs_self (name : String) : Occurs name name :=
  ⟨[], [], by simp, by simp, by simp⟩

/-! ## Evidence -/

private theorem propEvidence_of_silent {name : String} {value : PropValue}
    (hsilent : ∀ e, value.expression? = some e → ¬Occurs name e.text)
    (key : String) : propEvidence name key value = none := by
  cases value with
  | literal value => rfl
  | expression e =>
      have hunused : refersTo name e.text = false := by
        rw [← Bool.not_eq_true, refersTo_iff_occurs]
        exact hsilent e rfl
      simp [propEvidence, hunused]

theorem nodeEvidence_of_silent {name : String} {node : Node}
    (hsilent : ∀ e ∈ node.expressions, ¬Occurs name e.text) :
    nodeEvidence name node = [] := by
  cases node with
  | element tag props children =>
      rw [nodeEvidence, List.filterMap_eq_nil_iff]
      intro prop hprop
      apply propEvidence_of_silent
      intro e he
      exact hsilent e (List.mem_filterMap.mpr ⟨prop, hprop, he⟩)
  | conditional condition children =>
      have hunused : ¬refersTo name condition.text = true := by
        rw [refersTo_iff_occurs]
        exact hsilent condition (by simp [Node.expressions])
      rw [nodeEvidence, if_neg hunused]
  | loop item source children =>
      -- A source that is the name is a reference to it with nothing around.
      have hother : source.text ≠ name := by
        intro hsource
        have hunused := hsilent source (by simp [Node.expressions])
        rw [hsource] at hunused
        exact hunused (occurs_self name)
      simp [nodeEvidence, hother]

theorem mem_nodeEvidence_iff {name : String} {found : Evidence} {node : Node}
    (hdistinct : node.PropsDistinct) :
    found ∈ nodeEvidence name node ↔ node.content.Shows name found := by
  cases node with
  | element tag props children =>
      simp only [nodeEvidence, Node.content, Node.Content.Shows,
        List.mem_filterMap, Prod.exists,
        Entries.get?_eq_some_iff_mem hdistinct]
  | conditional condition children =>
      by_cases hrefers : refersTo name condition.text = true
      · simp [nodeEvidence, Node.content, Node.Content.Shows, hrefers]
      · simp [nodeEvidence, Node.content, Node.Content.Shows, hrefers]
  | loop item source children =>
      by_cases hsource : source.text = name
      · simp [nodeEvidence, Node.content, Node.Content.Shows, hsource]
      · simp [nodeEvidence, Node.content, Node.Content.Shows, hsource]

theorem mem_evidence_iff {name : String} {found : Evidence} {body : List Node}
    (hdistinct : Node.PropsDistinctIn body) :
    found ∈ evidence name body ↔
      ∃ content ∈ Node.contentsOf body, content.Shows name found := by
  rw [evidence, List.mem_flatMap]
  constructor
  · rintro ⟨node, hnode, hfound⟩
    exact ⟨node.content, ⟨node, hnode, rfl⟩,
      (mem_nodeEvidence_iff (hdistinct node hnode)).mp hfound⟩
  · rintro ⟨_, ⟨node, hnode, rfl⟩, hshows⟩
    exact ⟨node, hnode,
      (mem_nodeEvidence_iff (hdistinct node hnode)).mpr hshows⟩

/-! ## Profiles -/

theorem profile_eq_of_evidence {name : String} {first second : List Node}
    (hevidence : ∀ found,
      found ∈ evidence name first ↔ found ∈ evidence name second)
    (hasDefault : Bool) :
    profile name first hasDefault = profile name second hasDefault := by
  have hcontains : ∀ found, (evidence name first).contains found =
      (evidence name second).contains found := by
    intro found
    rw [Bool.eq_iff_iff, List.contains_iff_mem, List.contains_iff_mem]
    exact hevidence found
  simp only [profile, hcontains]

/-- Evidence from two sides sets the flags that either side sets. -/
theorem flags_profile_of_evidence {name : String}
    {whole first second : List Node}
    (hevidence :
      evidence name whole = evidence name first ++ evidence name second)
    (left right : Bool) :
    (profile name whole (left || right)).flags =
      List.zipWith or (profile name first left).flags
        (profile name second right).flags := by
  simp only [profile, UsageProfile.flags, hevidence, List.contains_append,
    List.zipWith_cons_cons, List.zipWith_nil_right]

private theorem evidence_append (name : String) (first second : List Node) :
    evidence name (first ++ second) =
      evidence name first ++ evidence name second := by
  rw [evidence, Node.walkAll_append, List.flatMap_append]
  rfl

theorem evidence_element (name tag : String) (props : Props)
    (children : List Node) :
    evidence name [.element tag props children] =
      props.filterMap (fun prop => propEvidence name prop.1 prop.2) ++
        evidence name children := by
  simp [evidence, Node.walkAll, Node.walk, nodeEvidence]

private theorem evidence_element_cons (name tag : String)
    (prop : String × PropValue) (props : Props) (children : List Node) :
    evidence name [.element tag (prop :: props) children] =
      evidence name [.element tag [prop] []] ++
        evidence name [.element tag props children] := by
  have hnone : evidence name [] = [] := rfl
  rw [evidence_element, evidence_element, evidence_element, hnone,
    List.append_nil, ← List.append_assoc, ← List.filterMap_append,
    List.singleton_append]

/-- A property by itself sets one flag at most. -/
theorem count_flags_single (name tag : String) (prop : String × PropValue) :
    (profile name [.element tag [prop] []] false).flags.count true ≤ 1 := by
  have hevidence : evidence name [.element tag [prop] []] =
      (propEvidence name prop.1 prop.2).toList := by
    rw [evidence_element]
    cases hfound : propEvidence name prop.1 prop.2 with
    | none => simp [hfound, evidence, Node.walkAll]
    | some found => simp [hfound, evidence, Node.walkAll]
  simp only [profile, hevidence]
  cases propEvidence name prop.1 prop.2 with
  | none => decide
  | some found => cases found <;> decide

private theorem profile_eq_of_contents {name : String}
    {first second : List Node} (hfirst : Node.PropsDistinctIn first)
    (hsecond : Node.PropsDistinctIn second)
    (hcontents : Node.contentsOf first = Node.contentsOf second)
    (hasDefault : Bool) :
    profile name first hasDefault = profile name second hasDefault := by
  apply profile_eq_of_evidence
  intro found
  rw [mem_evidence_iff hfirst, mem_evidence_iff hsecond, hcontents]

private theorem profile_eq_of_silent {name : String} {node : Node}
    {body larger : List Node}
    (hsilent : ∀ e ∈ node.expressions, ¬Occurs name e.text)
    (hnode : node.PropsDistinct) (hbody : Node.PropsDistinctIn body)
    (hlarger : Node.PropsDistinctIn larger)
    (hcontents :
      Node.contentsOf larger = insert node.content (Node.contentsOf body))
    (hasDefault : Bool) :
    profile name larger hasDefault = profile name body hasDefault := by
  apply profile_eq_of_evidence
  intro found
  have hnothing : ¬node.content.Shows name found := by
    rw [← mem_nodeEvidence_iff hnode, nodeEvidence_of_silent hsilent]
    exact List.not_mem_nil
  rw [mem_evidence_iff hlarger, mem_evidence_iff hbody, hcontents,
    Set.exists_mem_insert]
  exact or_iff_right hnothing

/-- The profile of a parameter is an order-free union: the flags of two bodies
together are those of the one or of the other, bodies with the same contents
have the same profile, every property adds one flag at most to those of the
rest, and a node without a reference to the parameter adds none, wherever it is
put and whatever literals it has. -/
theorem usage_collects_independent_evidence (name : String)
    (hasDefault : Bool) :
    (∀ first second,
      (profile name (first ++ second) hasDefault).flags =
        List.zipWith or (profile name first hasDefault).flags
          (profile name second hasDefault).flags) ∧
    (∀ first second, Node.PropsDistinctIn first →
      Node.PropsDistinctIn second →
      Node.contentsOf first = Node.contentsOf second →
        profile name first hasDefault = profile name second hasDefault) ∧
    (∀ tag prop props children,
      let alone := (profile name [.element tag [prop] []] false).flags
      alone.count true ≤ 1 ∧
        (profile name [.element tag (prop :: props) children]
            hasDefault).flags =
          List.zipWith or alone
            (profile name [.element tag props children] hasDefault).flags) ∧
    ∀ (node : Node) (body larger : List Node),
      (∀ e ∈ node.expressions, ¬Occurs name e.text) →
      node.PropsDistinct → Node.PropsDistinctIn body →
      Node.PropsDistinctIn larger →
      Node.contentsOf larger = insert node.content (Node.contentsOf body) →
        profile name larger hasDefault = profile name body hasDefault := by
  refine ⟨?_, ?_, ?_, ?_⟩
  · intro first second
    have hunion := flags_profile_of_evidence
      (evidence_append name first second) hasDefault hasDefault
    rw [Bool.or_self] at hunion
    exact hunion
  · intro first second hfirst hsecond hcontents
    exact profile_eq_of_contents hfirst hsecond hcontents hasDefault
  · intro tag prop props children alone
    have hunion := flags_profile_of_evidence
      (evidence_element_cons name tag prop props children) false hasDefault
    rw [Bool.false_or] at hunion
    exact ⟨count_flags_single name tag prop, hunion⟩
  · intro node body larger hsilent hnode hbody hlarger hcontents
    exact profile_eq_of_silent hsilent hnode hbody hlarger hcontents hasDefault

/-- A list of items, shown if there are any. -/
def itemList : List Node :=
  [.conditional (.of "items.length > 0")
    [.loop "row" (.of "items")
      [.element "Row" [("onOpen", .expression (.of "open(row)"))] []]]]

def flatItemList : List Node :=
  [.element "Row" [("onOpen", .expression (.of "open(row)"))]
      [.conditional (.of "items.length > 0") []],
    .loop "row" (.of "items") []]

/-- A box whose title is a text and whose source is a member of something
else. -/
def itemBox (children : List Node) : Node :=
  .element "Box"
    [("title", .text "items"), ("source", .expression (.of "page.items"))]
    children

theorem itemLists_profiled_alike :
    profile "items" flatItemList false =
        { usedAsArray := true, conditionalUsage := true } ∧
      profile "items" [itemBox itemList] false =
        { usedAsArray := true, conditionalUsage := true } ∧
      (profile "items" (flatItemList ++ itemList) false).flags =
        [false, false, false, true, false, false, true] := by
  obtain ⟨hunion, hsame, -, hsilent⟩ :=
    usage_collects_independent_evidence "items" false
  have hlist : Node.PropsDistinctIn itemList := by
    simp [Node.PropsDistinctIn, itemList, Node.walkAll, Node.walk,
      Node.PropsDistinct, Entries.keys]
  have hflat : Node.PropsDistinctIn flatItemList := by
    simp [Node.PropsDistinctIn, flatItemList, Node.walkAll, Node.walk,
      Node.PropsDistinct, Entries.keys]
  have hbox : (itemBox itemList).PropsDistinct := by
    simp [itemBox, Node.PropsDistinct, Entries.keys]
  have hboxed : Node.PropsDistinctIn [itemBox itemList] := by
    simpa [Node.PropsDistinctIn, itemBox, Node.walkAll, Node.walk] using
      ⟨hbox, hlist⟩
  have hprofile : profile "items" itemList false =
      { usedAsArray := true, conditionalUsage := true } := by
    decide +kernel
  have hcontents :
      Node.contentsOf flatItemList = Node.contentsOf itemList := by
    ext content
    simp only [Node.mem_contentsOf_iff, flatItemList, itemList, Node.walkAll,
      Node.walk, Node.content, List.append_nil, List.cons_append,
      List.nil_append, List.exists_mem_cons_iff, List.not_mem_nil, false_and,
      exists_false, or_false]
    tauto
  have hinserted : Node.contentsOf [itemBox itemList] =
      insert (itemBox itemList).content (Node.contentsOf itemList) := by
    ext content
    simp [Node.mem_contentsOf_iff, itemBox, Node.walkAll, Node.walk, eq_comm]
  have hunused : ∀ e ∈ (itemBox itemList).expressions,
      ¬Occurs "items" e.text := by
    have hmember : ¬refersTo "items" (Expression.of "page.items").text = true := by
      decide +kernel
    simpa [itemBox, Node.expressions, PropValue.expression?, PropValue.text,
      ← refersTo_iff_occurs] using hmember
  have hflatProfile := (hsame flatItemList itemList hflat hlist hcontents).trans
    hprofile
  refine ⟨hflatProfile, ?_, ?_⟩
  · rw [hsilent (itemBox itemList) itemList _ hunused hbox hlist hboxed
      hinserted]
    exact hprofile
  · rw [hunion, hflatProfile, hprofile]
    rfl

end Usage
end ViewCompiler
