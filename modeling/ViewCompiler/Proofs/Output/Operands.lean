import ViewCompiler.Proofs.Name
import ViewCompiler.Proofs.Output.ComponentTags
import ViewCompiler.Proofs.Program.NormalForm

/-!
# Expressions as operands

The text of a condition is written in front of ` ? (`, and that of a loop's
source in front of `.map(`.  It has to stay one operand there.  A source does if
it is a path or stands in parentheses of its own; a condition also does if no
operator in it that is outside brackets and strings binds looser than the
conditional operator.

A source that is marked as compound is written in parentheses.  They are its own
exactly if the source closes what it opens and nothing else.  A condition is
written as it is, so it has to be an operand already.
-/

namespace ViewCompiler

/-! ## Places in code -/

namespace Code

/-- What opens a bracket or a string, with what closes it. -/
def pairs : List (Char × Char) :=
  [('(', ')'), ('[', ']'), ('\x7b', '\x7d'), ('"', '"'), ('\x27', '\x27'),
    ('\x60', '\x60')]

def isQuote (c : Char) : Bool :=
  pairs.lookup c == some c

/-- A place in code: what has to come to close the brackets and strings around
it, the innermost first, and whether a backslash in a string stands before it. -/
structure Place where
  awaited : List Char := []
  escaped : Bool := false

namespace Place

def isOutside (place : Place) : Bool :=
  place.awaited.isEmpty

/-- The place behind a character. -/
def step (place : Place) (c : Char) : Place :=
  match place.awaited with
  | [] => { awaited := (pairs.lookup c).toList }
  | last :: around =>
    if place.escaped then { awaited := last :: around }
    else if c = last then { awaited := around }
    else if isQuote last then { awaited := last :: around, escaped := c == '\\' }
    else { awaited := (pairs.lookup c).toList ++ last :: around }

/-- The place behind some characters. -/
def after (place : Place) (chars : List Char) : Place :=
  chars.foldl step place

/-- The characters outside brackets and strings: what opens one is outside, what
closes it is not. -/
def outer (place : Place) : List Char → List Char
  | [] => []
  | c :: rest =>
    if place.isOutside then c :: outer (place.step c) rest
    else outer (place.step c) rest

/-- The place, with a parenthesis opened around all that is around it. -/
def inParentheses (place : Place) : Place :=
  { place with awaited := place.awaited ++ [')'] }

/-- A backslash only counts in a string. -/
def Settled (place : Place) : Prop :=
  place.isOutside = true → place.escaped = false

theorem settled_start : Settled {} :=
  fun _ => rfl

theorem step_cons (last : Char) (around : List Char) (escaped : Bool)
    (c : Char) :
    step ⟨last :: around, escaped⟩ c =
      if escaped then { awaited := last :: around }
      else if c = last then { awaited := around }
      else if isQuote last then { awaited := last :: around, escaped := c == '\\' }
      else { awaited := (pairs.lookup c).toList ++ last :: around } :=
  rfl

theorem inParentheses_cons (last : Char) (around : List Char)
    (escaped : Bool) :
    inParentheses ⟨last :: around, escaped⟩ =
      ⟨last :: (around ++ [')']), escaped⟩ :=
  rfl

theorem settled_step (place : Place) (c : Char) : (place.step c).Settled := by
  unfold step Settled isOutside
  grind

theorem Settled.after {place : Place} (hsettled : place.Settled)
    (chars : List Char) : (place.after chars).Settled := by
  induction chars generalizing place with
  | nil => exact hsettled
  | cons c rest ih => exact ih (settled_step place c)

private theorem isOutside_inParentheses (place : Place) :
    place.inParentheses.isOutside = false := by
  simp [inParentheses, isOutside]

/-- Inside parentheses a character does what it does without them, unless it is
the one that closes them. -/
theorem step_inParentheses {place : Place} (hsettled : place.Settled) {c : Char}
    (hc : place.isOutside = true → c ≠ ')') :
    place.inParentheses.step c = (place.step c).inParentheses := by
  obtain ⟨awaited, escaped⟩ := place
  cases awaited with
  | nil =>
      have hescaped : escaped = false := hsettled rfl
      have hquote : isQuote ')' = false := by decide
      simp [inParentheses, step, hescaped, hc rfl, hquote]
  | cons last around =>
      rw [inParentheses_cons, step_cons, step_cons]
      split_ifs <;> simp [inParentheses]

private theorem step_inParentheses_close {place : Place}
    (hsettled : place.Settled) :
    (place.inParentheses.step ')').isOutside = place.isOutside := by
  obtain ⟨awaited, escaped⟩ := place
  cases awaited with
  | nil =>
      have hescaped : escaped = false := hsettled rfl
      simp [inParentheses, step, isOutside, hescaped]
  | cons last around =>
      rw [inParentheses_cons, step_cons]
      split_ifs <;> simp [isOutside]

theorem after_inParentheses {place : Place} (hsettled : place.Settled)
    {chars : List Char} (hchars : ')' ∉ place.outer chars) :
    place.inParentheses.after chars = (place.after chars).inParentheses := by
  induction chars generalizing place with
  | nil => rfl
  | cons c rest ih =>
      have hc : place.isOutside = true → c ≠ ')' := by
        rintro houtside rfl
        simp [outer, houtside] at hchars
      have hrest : ')' ∉ (place.step c).outer rest := by
        by_cases houtside : place.isOutside = true
        · simp only [outer, houtside, if_true, List.mem_cons, not_or] at hchars
          exact hchars.2
        · simpa [outer, houtside] using hchars
      change (place.inParentheses.step c).after rest = _
      rw [step_inParentheses hsettled hc]
      exact ih (settled_step place c) hrest

theorem outer_append (place : Place) (front rest : List Char) :
    place.outer (front ++ rest) =
      place.outer front ++ (place.after front).outer rest := by
  induction front generalizing place with
  | nil => rfl
  | cons c front ih =>
      by_cases houtside : place.isOutside = true
      · simp [outer, houtside, ih, after]
      · simp [outer, houtside, ih, after]

/-- Of the parentheses that close nothing there is a first one. -/
theorem exists_first_excess {place : Place} {chars : List Char}
    (hmem : ')' ∈ place.outer chars) :
    ∃ front rest, chars = front ++ ')' :: rest ∧ ')' ∉ place.outer front ∧
      (place.after front).isOutside = true := by
  induction chars generalizing place with
  | nil => contradiction
  | cons c rest ih =>
      by_cases hfirst : place.isOutside = true ∧ c = ')'
      · obtain ⟨houtside, rfl⟩ := hfirst
        exact ⟨[], rest, rfl, by simp [outer], houtside⟩
      · have hrest : ')' ∈ (place.step c).outer rest := by
          by_cases houtside : place.isOutside = true
          · have hne : ')' ≠ c := fun heq => hfirst ⟨houtside, heq.symm⟩
            simpa [outer, houtside, hne] using hmem
          · simpa [outer, houtside] using hmem
        obtain ⟨front, back, rfl, hfront, hafter⟩ := ih hrest
        refine ⟨c :: front, back, rfl, ?_, hafter⟩
        by_cases houtside : place.isOutside = true
        · have hne : ')' ≠ c := fun heq => hfirst ⟨houtside, heq.symm⟩
          simpa [outer, houtside, hne] using hfront
        · simpa [outer, houtside] using hfront

end Place

/-! ## Texts as operands -/

/-- A conditional operator is among the characters; `?.` and `??` are not. -/
def hasConditional : List Char → Bool
  | '?' :: '?' :: rest => hasConditional rest
  | '?' :: '.' :: rest => hasConditional rest
  | '?' :: _ => true
  | _ :: rest => hasConditional rest
  | [] => false

/-- An operator outside brackets and strings binds looser than the conditional
operator, or is one. -/
def BindsLoosely (chars : List Char) : Prop :=
  hasConditional (Place.outer {} chars) = true ∨
    ['=', '>'] <:+: Place.outer {} chars ∨ ',' ∈ Place.outer {} chars

/-- The characters stand in parentheses of their own: the first one opens them,
and nothing but the last one closes them. -/
structure Enclosed (chars : List Char) : Prop where
  opens : chars.head? = some '('
  closes : (Place.after {} chars).isOutside = true
  stays : ∀ front rest, chars = front ++ rest → front ≠ [] → rest ≠ [] →
    (Place.after {} front).isOutside = false

/-- The characters close the brackets and strings that they open, and have no
parenthesis that closes another one. -/
structure Closed (chars : List Char) : Prop where
  closes : (Place.after {} chars).isOutside = true
  no_excess : ')' ∉ Place.outer {} chars

theorem isOutside_after_enclose {chars : List Char}
    (hchars : ')' ∉ Place.outer {} chars) :
    (Place.after {} ('(' :: (chars ++ [')']))).isOutside =
      (Place.after {} chars).isOutside := by
  have hsettled := Place.settled_start.after chars
  calc
    (Place.after {} ('(' :: (chars ++ [')']))).isOutside =
        (((Place.inParentheses {}).after chars).step ')').isOutside := by
      simp only [Place.after, List.foldl_cons, List.foldl_append, List.foldl_nil]
      rfl
    _ = ((Place.after {} chars).inParentheses.step ')').isOutside := by
      rw [Place.after_inParentheses Place.settled_start hchars]
    _ = (Place.after {} chars).isOutside :=
      Place.step_inParentheses_close hsettled

/-- Parentheses around a text are its own exactly if the text is closed. -/
theorem enclosed_iff {chars : List Char} :
    Enclosed ('(' :: (chars ++ [')'])) ↔ Closed chars := by
  constructor
  · intro henclosed
    have hexcess : ')' ∉ Place.outer {} chars := by
      intro hmem
      obtain ⟨front, rest, rfl, hfront, hafter⟩ :=
        Place.exists_first_excess hmem
      have hstays := henclosed.stays ('(' :: (front ++ [')'])) (rest ++ [')'])
        (by simp) (by simp) (by simp)
      rw [isOutside_after_enclose hfront, hafter] at hstays
      contradiction
    have hcloses := henclosed.closes
    rw [isOutside_after_enclose hexcess] at hcloses
    exact ⟨hcloses, hexcess⟩
  · intro hclosed
    refine ⟨rfl, ?_, ?_⟩
    · rw [isOutside_after_enclose hclosed.no_excess]
      exact hclosed.closes
    · intro front rest hsplit hfront hrest
      cases front with
      | nil => contradiction
      | cons first front =>
          rw [List.cons_append] at hsplit
          obtain ⟨rfl, htail⟩ := List.cons.inj hsplit
          -- The last character is in the rest, so the front is one of the text.
          have hback : rest = rest.dropLast ++ [rest.getLast hrest] :=
            (List.dropLast_append_getLast hrest).symm
          rw [hback, ← List.append_assoc] at htail
          obtain ⟨hchars, _⟩ := List.append_inj' htail rfl
          have hexcess := hclosed.no_excess
          rw [hchars, Place.outer_append, List.mem_append, not_or] at hexcess
          have hafter : Place.after {} ('(' :: front) =
              (Place.after {} front).inParentheses :=
            Place.after_inParentheses Place.settled_start hexcess.1
          rw [hafter]
          exact Place.isOutside_inParentheses _

private theorem closed_of_forall_lookup {chars : List Char}
    (hchars : ∀ c ∈ chars, pairs.lookup c = none ∧ c ≠ ')') : Closed chars := by
  induction chars with
  | nil => exact ⟨rfl, by simp [Place.outer]⟩
  | cons c rest ih =>
      obtain ⟨⟨hlookup, hne⟩, hrest⟩ := List.forall_mem_cons.mp hchars
      have hstep : Place.step {} c = {} := by simp [Place.step, hlookup]
      have hclosed := ih hrest
      refine ⟨?_, ?_⟩
      · change ((Place.step {} c).after rest).isOutside = true
        rw [hstep]
        exact hclosed.closes
      · simp only [Place.outer, Place.isOutside, List.isEmpty_nil, if_true,
          hstep, List.mem_cons, not_or]
        exact ⟨hne.symm, hclosed.no_excess⟩

theorem lookup_of_isPathChar {c : Char} (hc : Name.isPathChar c = true) :
    pairs.lookup c = none ∧ c ≠ ')' := by
  have hopeners : ∀ pair ∈ pairs, Name.isPathChar pair.1 = false := by decide
  constructor
  · rw [List.lookup_eq_none_iff]
    intro pair hpair
    have hne : c ≠ pair.1 := by
      intro heq
      rw [heq, hopeners pair hpair] at hc
      contradiction
    simpa using hne
  · intro heq
    rw [heq] at hc
    exact absurd hc (by decide)

private theorem closed_of_isPath {text : String}
    (hpath : Name.isPath text = true) :
    Closed text.toList := by
  unfold Name.isPath at hpath
  cases hchars : text.toList with
  | nil =>
      rw [hchars] at hpath
      exact absurd hpath (by decide)
  | cons first rest =>
      rw [hchars] at hpath
      obtain ⟨inner, hrest, hfirst, hinner⟩ := Name.isNameOf_cases hpath
      apply closed_of_forall_lookup
      intro c hc
      rcases List.mem_cons.mp hc with rfl | hc
      · exact lookup_of_isPathChar (Name.isPathChar_of_isStart hfirst)
      · rcases hrest with rfl | rfl
        · exact lookup_of_isPathChar (hinner c hc)
        · rcases List.mem_append.mp hc with hc | hc
          · exact lookup_of_isPathChar (hinner c hc)
          · rw [List.mem_singleton.mp hc]
            decide

/-- The text may stand in front of a call. -/
def IsReceiver (text : String) : Prop :=
  Name.isPath text = true ∨ Enclosed text.toList

/-- The text may stand in front of a conditional operator. -/
def IsTest (text : String) : Prop :=
  Enclosed text.toList ∨ ¬BindsLoosely text.toList

end Code

/-! ## The first lines of blocks -/

namespace Markup

/-- A text is written as it is or in parentheses. -/
def Splices (text written : String) : Prop :=
  written = text ∨ written = "(" ++ text ++ ")"

/-- The first line of a block holds the text of its expression as one operand of
what is generated beside it. -/
inductive KeepsOperand : Node → String → Prop
  | element (tag : String) (props : Props) (children : List Node)
      (line : String) : KeepsOperand (.element tag props children) line
  | conditional {condition : Expression} {children : List Node} {test : String}
      (hsplices : Splices condition.text test) (htest : Code.IsTest test) :
      KeepsOperand (.conditional condition children)
        ("\x7b" ++ test ++ " ? (")
  | loop {item : String} {source : Expression} {children : List Node}
      {receiver : String} (hsplices : Splices source.text receiver)
      (hreceiver : Code.IsReceiver receiver) :
      KeepsOperand (.loop item source children)
        ("\x7b" ++ receiver ++ ".map((" ++
          ", ".intercalate (loopBinders item) ++ ") => (")

/-- The node's expression is an operand in the form in which it is written. -/
def IsSplicable : Node → Prop
  | .element _ _ _ => True
  | .conditional condition _ => Code.IsTest condition.text
  | .loop _ source _ =>
    (source.isPath = true → Code.IsReceiver source.text) ∧
      (source.isPath = false → Code.Closed source.text.toList)

theorem isReceiver_parenthesized {text : String} :
    Code.IsReceiver ("(" ++ text ++ ")") ↔ Code.Closed text.toList := by
  have hchars : ("(" ++ text ++ ")").toList = '(' :: (text.toList ++ [')']) := by
    simp
  have hpath : Name.isPath ("(" ++ text ++ ")") = false := by
    rw [Name.isPath, hchars, Name.isNameOf]
    have hstart : Name.isStart '(' = false := by decide
    rw [hstart, Bool.false_and]
  rw [Code.IsReceiver, hpath, hchars, Code.enclosed_iff]
  simp

theorem isReceiver_receiver {source : Expression} :
    Code.IsReceiver (receiver source) ↔
      (source.isPath = true → Code.IsReceiver source.text) ∧
        (source.isPath = false → Code.Closed source.text.toList) := by
  by_cases hpath : source.isPath = true
  · simp [receiver, hpath]
  · simp [receiver, hpath, isReceiver_parenthesized]

theorem keepsOperand_opener_iff (tags : Entries String) (node : Node) :
    KeepsOperand node (opener tags node) ↔ IsSplicable node := by
  cases node with
  | element tag props children =>
      exact iff_of_true (.element tag props children _) trivial
  | conditional condition children =>
      constructor
      · intro hkeeps
        generalize hline : opener tags (.conditional condition children) = line
          at hkeeps
        cases hkeeps with
        | conditional _ htest =>
            rw [opener, String.append_left_inj, String.append_right_inj] at hline
            rw [← hline] at htest
            exact htest
      · intro htest
        exact .conditional (Or.inl rfl) htest
  | loop item source children =>
      rw [IsSplicable, ← isReceiver_receiver]
      constructor
      · intro hkeeps
        generalize hline : opener tags (.loop item source children) = line
          at hkeeps
        cases hkeeps with
        | loop _ hreceiver =>
            rw [opener, String.append_left_inj, String.append_left_inj,
              String.append_left_inj, String.append_right_inj] at hline
            rw [← hline] at hreceiver
            exact hreceiver
      · intro hreceiver
        refine .loop ?_ hreceiver
        unfold receiver Splices
        split <;> simp

/-- A loop over a source that is read from a text can only fail to keep it
because the text is not closed: the text of a path is closed. -/
theorem isSplicable_loop_iff {item : String} {source : Expression}
    {children : List Node} (hread : source.IsRead) :
    IsSplicable (.loop item source children) ↔
      Code.Closed source.text.toList := by
  by_cases hpath : Name.isPath source.text = true
  · have hclosed := Code.closed_of_isPath hpath
    simp [IsSplicable, hread.isPath_eq, hpath, Code.IsReceiver, hclosed]
  · simp [IsSplicable, hread.isPath_eq, hpath]

end Markup

namespace Generator

/-- Every node's first line stands in the generated lines, in order. -/
theorem exists_lines_eq_opener (generator : Generator) (program : Program)
    (scan : Binding.Scan) (partition : Binding.Partition)
    {before after : List Node} {node : Node}
    (hsplit : program.nodes = before ++ node :: after) :
    ∃ start depth rest,
      generator.lines program scan partition =
        start ++ ⟨depth, Markup.opener generator.tags node⟩ :: rest ∧
      (before.map (Markup.opener generator.tags)).Sublist
        (start.map Line.text) ∧
      (after.map (Markup.opener generator.tags)).Sublist
        (rest.map Line.text) := by
  obtain ⟨start, depth, rest, hlines, hstart, hrest⟩ :=
    (generator.lines_located program scan partition).block before node after
      hsplit
  obtain ⟨front, childDepth, back, hnode⟩ :=
    Markup.exists_nodeLines_eq generator.tags node depth
  rw [hnode] at hlines hrest
  refine ⟨start, depth,
    front ++ Markup.nodesLines generator.tags node.children childDepth ++ back ++
      rest, ?_, hstart, ?_⟩
  · rw [hlines, List.append_assoc, List.cons_append]
  · exact List.cons_sublist_cons.mp hrest

/-- Conditions and sources of loops stay one operand in the generated lines
exactly if each is an operand in the form in which it is written: a condition as
it is, a source marked as a path as it is, and another source in parentheses.
In a program loaded from unserialized data the marks are right, so that a source
only has to be closed. -/
theorem operands_kept_iff (generator : Generator) (program : Program)
    (scan : Binding.Scan) (partition : Binding.Partition) :
    (∀ before node after, program.nodes = before ++ node :: after →
      ∃ start depth line rest,
        generator.lines program scan partition =
          start ++ ⟨depth, line⟩ :: rest ∧
        (before.map (Markup.opener generator.tags)).Sublist
          (start.map Line.text) ∧
        (after.map (Markup.opener generator.tags)).Sublist
          (rest.map Line.text) ∧
        line = Markup.opener generator.tags node ∧
        (Markup.KeepsOperand node line ↔ Markup.IsSplicable node)) ∧
    ∀ data, Program.load data = .ok program → data.Unserialized →
      ((∀ node ∈ program.nodes, Markup.KeepsOperand node
          (Markup.opener generator.tags node)) ↔
        (∀ condition children, .conditional condition children ∈ program.nodes →
          Code.IsTest condition.text) ∧
        ∀ item source children, .loop item source children ∈ program.nodes →
          Code.Closed source.text.toList) := by
  refine ⟨?_, ?_⟩
  · intro before node after hsplit
    obtain ⟨start, depth, rest, hlines, hstart, hrest⟩ :=
      generator.exists_lines_eq_opener program scan partition hsplit
    exact ⟨start, depth, _, rest, hlines, hstart, hrest, rfl,
      Markup.keepsOperand_opener_iff generator.tags node⟩
  · intro data hload hdata
    have hreads := (Program.load_readsTexts hdata).of_eq_ok program hload
    simp only [Markup.keepsOperand_opener_iff]
    constructor
    · intro hnodes
      refine ⟨fun condition children hmem => hnodes _ hmem, ?_⟩
      intro item source children hmem
      exact (Markup.isSplicable_loop_iff (hreads _ hmem)).mp (hnodes _ hmem)
    · rintro ⟨hconditions, hsources⟩ node hnode
      cases node with
      | element tag props children => trivial
      | conditional condition children => exact hconditions _ _ hnode
      | loop item source children =>
          exact (Markup.isSplicable_loop_iff (hreads _ hnode)).mpr
            (hsources _ _ _ hnode)

/-- A condition in parentheses of its own, around a loop over a compound
source. -/
def guardedRows : Json :=
  .array [.object [("type", .text "If"), ("condition", .text "(a ? b : c)"),
    ("children", .array [.object [("type", .text "For"), ("item", .text "row"),
      ("list", .text "rows || []")]])]]

private theorem guardedRows_unserialized : guardedRows.Unserialized := by
  simp [guardedRows, Entries.get?, Json.Unserialized.text]

/-- What the guarded rows are loaded as. -/
def guardedRowsLoaded : Program where
  body := [.conditional ⟨.compound, "(a ? b : c)"⟩
    [.loop "row" ⟨.compound, "rows || []"⟩ []]]

theorem guardedRows_operands_kept :
    Program.load guardedRows = .ok guardedRowsLoaded ∧
      ∀ node ∈ guardedRowsLoaded.nodes, Markup.KeepsOperand node
        (Markup.opener (Generator.tags { format := .jsx }) node) := by
  have hload : Program.load guardedRows = .ok guardedRowsLoaded := by rfl
  have hclosed : Code.Closed "a ? b : c".toList := ⟨by decide, by decide⟩
  have htest : Code.IsTest "(a ? b : c)" :=
    Or.inl (Code.enclosed_iff.mpr hclosed)
  refine ⟨hload, ?_⟩
  apply ((operands_kept_iff { format := .jsx } guardedRowsLoaded
    (Binding.scan guardedRowsLoaded) {}).2
    guardedRows hload guardedRows_unserialized).mpr
  constructor
  · intro condition children hmem
    simp [guardedRowsLoaded, Program.nodes, Node.walkAll, Node.walk] at hmem
    rw [hmem.1]
    exact htest
  · intro item source children hmem
    simp [guardedRowsLoaded, Program.nodes, Node.walkAll, Node.walk] at hmem
    rw [hmem.2.1]
    exact ⟨by decide, by decide⟩

/-- A condition that is a conditional expression takes the generated operator
into its last alternative. -/
theorem conditional_test_regrouped :
    Program.load (.array [.object [("type", .text "If"),
        ("condition", .text "a ? b : c"),
        ("children", .array [.object [("type", .text "Text")]])]]) =
      .ok { body := [.conditional ⟨.compound, "a ? b : c"⟩
        [.element "Text" [] []]] } ∧
    Markup.opener Markup.defaultTags (.conditional ⟨.compound, "a ? b : c"⟩
        [.element "Text" [] []]) = "\x7ba ? b : c ? (" ∧
    ¬Markup.KeepsOperand (.conditional ⟨.compound, "a ? b : c"⟩
        [.element "Text" [] []]) "\x7ba ? b : c ? (" := by
  have hline : Markup.opener Markup.defaultTags
      (.conditional ⟨.compound, "a ? b : c"⟩ [.element "Text" [] []]) =
        "\x7ba ? b : c ? (" := by decide
  refine ⟨by rfl, hline, ?_⟩
  rw [← hline, Markup.keepsOperand_opener_iff]
  intro htest
  rcases htest with henclosed | hbinds
  · exact absurd henclosed.opens (by decide)
  · exact hbinds (Or.inl (by decide))

end Generator
end ViewCompiler
