import ViewCompiler.Proofs.Binding.ContentOrder

/-!
# Programs with more markup

Nodes that are put after the body of a program are taken up last.  What a scan
finds then is what it finds in the program, followed by what it finds in the
new nodes alone, without the targets that are known already.  So nothing that
was found is lost or changes its place, and a target that comes from the caller
does so in every longer program: names in use only become more.
-/

namespace ViewCompiler

/-- The program with nodes put after its body. -/
def Program.appending (program : Program) (more : List Node) : Program :=
  { program with body := program.body ++ more }

theorem Program.nodes_appending (program : Program) (more : List Node) :
    (program.appending more).nodes = program.nodes ++ Node.walkAll more := by
  rw [nodes, nodes, appending, Node.walkAll_append, List.append_assoc]

namespace Binding
namespace Scan

def targetNames (scan : Scan) : List String :=
  scan.targets.map BindTarget.name

/-- The targets that a scan has not found yet. -/
def unknownTargets (scan : Scan) (targets : List BindTarget) :
    List BindTarget :=
  targets.filter fun target => target.name ∉ scan.targetNames

/-- The whole scan has found what the first one has, and then what the second
one has besides. -/
structure Joins (first second whole : Scan) : Prop where
  used_iff : ∀ name,
    name ∈ whole.used ↔ name ∈ first.used ∨ name ∈ second.used
  targets_eq :
    whole.targets = first.targets ++ first.unknownTargets second.targets
  warnings_eq : whole.warnings = first.warnings ++ second.warnings

private theorem joins_empty (first : Scan) : Joins first {} first := by
  constructor <;> simp [unknownTargets]

namespace Joins

variable {first second whole : Scan} (hjoins : Joins first second whole)

include hjoins

theorem mem_targetNames_iff {name : String} :
    name ∈ whole.targetNames ↔
      name ∈ first.targetNames ∨ name ∈ second.targetNames := by
  have hunknown :
      name ∈ (first.unknownTargets second.targets).map BindTarget.name ↔
        name ∈ second.targetNames ∧ name ∉ first.targetNames := by
    apply mem_names_filter_iff (P := (· ∉ first.targetNames))
    intro target
    exact decide_eq_true_iff
  rw [targetNames, hjoins.targets_eq, List.map_append, List.mem_append,
    hunknown]
  tauto

private theorem addTarget_targets (target : BindTarget) :
    (whole.addTarget target).targets =
      first.targets ++
        first.unknownTargets (second.addTarget target).targets := by
  by_cases hsecond : target.name ∈ second.targetNames
  · have hwhole : target.name ∈ whole.targetNames :=
      hjoins.mem_targetNames_iff.mpr (Or.inr hsecond)
    rw [addTarget_targets_of_mem hwhole, addTarget_targets_of_mem hsecond,
      hjoins.targets_eq]
  · have hadded := addTarget_targets_of_notMem hsecond
    by_cases hfirst : target.name ∈ first.targetNames
    · -- The second scan has a new target here, but the whole knows it.
      have hwhole : target.name ∈ whole.targetNames :=
        hjoins.mem_targetNames_iff.mpr (Or.inl hfirst)
      rw [addTarget_targets_of_mem hwhole, hadded, hjoins.targets_eq]
      simp [unknownTargets, hfirst]
    · have hwhole : target.name ∉ whole.targetNames := by
        rw [hjoins.mem_targetNames_iff]
        tauto
      rw [addTarget_targets_of_notMem hwhole, hadded, hjoins.targets_eq]
      simp [unknownTargets, hfirst]

theorem use (found : Option String) :
    Joins first (second.use found) (whole.use found) where
  used_iff name := by
    rw [mem_used_use, mem_used_use, hjoins.used_iff, or_assoc]
  targets_eq := by
    rw [use_targets, use_targets, hjoins.targets_eq]
  warnings_eq := by
    rw [use_warnings, use_warnings, hjoins.warnings_eq]

theorem useAll (props : Props) :
    Joins first (second.useAll props) (whole.useAll props) where
  used_iff name := by
    rw [mem_used_useAll, mem_used_useAll, hjoins.used_iff, or_assoc]
  targets_eq := by
    rw [useAll_targets, useAll_targets, hjoins.targets_eq]
  warnings_eq := by
    rw [useAll_warnings, useAll_warnings, hjoins.warnings_eq]

theorem addTarget (target : BindTarget) :
    Joins first (second.addTarget target) (whole.addTarget target) where
  used_iff name := by
    rw [addTarget_used, addTarget_used, hjoins.used_iff]
  targets_eq := hjoins.addTarget_targets target
  warnings_eq := by
    rw [addTarget_warnings, addTarget_warnings, hjoins.warnings_eq]

theorem warn (failure : Failure) :
    Joins first (second.warn failure) (whole.warn failure) where
  used_iff := hjoins.used_iff
  targets_eq := hjoins.targets_eq
  warnings_eq := by
    rw [Scan.warn, Scan.warn, hjoins.warnings_eq, List.append_assoc]

theorem bind (tag : String) (props : Props) (value : PropValue) :
    Joins first (second.bind tag props value)
      (whole.bind tag props value) := by
  unfold Scan.bind
  cases bindContent value with
  | bool b => exact hjoins.warn _
  | number n => exact hjoins.warn _
  | text text =>
      by_cases htarget : Name.isTarget text = true
      · simp only [htarget, if_true]
        exact hjoins.addTarget _
      · simp only [htarget]
        exact hjoins.warn _

/-- Both scans go on by one node. -/
theorem take (node : Node) :
    Joins first (second.take node) (whole.take node) := by
  cases node with
  | element tag props children =>
      have hused := hjoins.useAll props
      cases hbind : Entries.get? props "bind" with
      | none => simpa only [Scan.take, hbind] using hused
      | some value =>
          simpa only [Scan.take, hbind] using hused.bind tag props value
  | conditional condition children => exact hjoins.use condition.root
  | loop item source children =>
      exact (hjoins.use source.root).use (some item)

theorem foldl_take (nodes : List Node) :
    Joins first (nodes.foldl Scan.take second)
      (nodes.foldl Scan.take whole) := by
  induction nodes generalizing second whole with
  | nil => exact hjoins
  | cons node rest ih => exact ih (hjoins.take node)

/-! ## What is kept -/

theorem used_subset : first.used ⊆ whole.used := by
  intro name hname
  exact (hjoins.used_iff name).mpr (Or.inl hname)

theorem targets_prefix : first.targets <+: whole.targets := by
  rw [hjoins.targets_eq]
  exact List.prefix_append _ _

private theorem warnings_prefix : first.warnings <+: whole.warnings := by
  rw [hjoins.warnings_eq]
  exact List.prefix_append _ _

private theorem external_subset :
    first.classify.external ⊆ whole.classify.external := by
  intro target htarget
  rw [mem_external_iff] at htarget ⊢
  obtain ⟨hfound, hname, hsetter⟩ := htarget
  exact ⟨hjoins.targets_prefix.subset hfound, hjoins.used_subset hname,
    hjoins.used_subset hsetter⟩

end Joins

end Scan

/-- The scan of a longer program is that of the program, joined with that of the
new nodes by themselves. -/
theorem scan_appending_joins (program : Program) (more : List Node) :
    Scan.Joins (scan program) (scan { body := more })
      (scan (program.appending more)) := by
  have hmore : ({ body := more } : Program).nodes = Node.walkAll more := rfl
  rw [scan_eq_foldl_nodes (program.appending more), Program.nodes_appending,
    List.foldl_append, ← scan_eq_foldl_nodes program,
    scan_eq_foldl_nodes { body := more }, hmore]
  exact (Scan.joins_empty (scan program)).foldl_take (Node.walkAll more)

/-- Nodes put after the body of a program take away none of the names in use,
none of the targets and warnings, which keep their places, and none of the
targets that come from the caller. -/
theorem appending_keeps_external_targets (program : Program)
    (more : List Node) :
    let found := scan program
    let later := scan (program.appending more)
    found.used ⊆ later.used ∧
    found.targets <+: later.targets ∧
    found.warnings <+: later.warnings ∧
    found.classify.external ⊆ later.classify.external := by
  intro found later
  have hjoins : Scan.Joins found (scan { body := more }) later :=
    scan_appending_joins program more
  exact ⟨hjoins.used_subset, hjoins.targets_prefix, hjoins.warnings_prefix,
    hjoins.external_subset⟩

-- The other way round a target may move: the setter is referred to later only.
example :
    let field : Program :=
      { body := [.element "Input" [("bind", .text "page")]
          [.element "Text" [("text", .expression (.of "page"))] []]] }
    let button : Node := .element "Button" [("onClick", .text "setPage")] []
    (scan field).classify.internalNames = ["page"] ∧
      (scan (field.appending [button])).classify.externalNames = ["page"] := by
  decide +kernel

end Binding
end ViewCompiler
