import ViewCompiler.Proofs.Binding.Scan

/-!
# Targets and their partition

The targets of a program are the names that its markup is bound to, each once
and in the order in which a walk first meets them.  The partition sorts every
target into state or into properties from the caller, and leaves their order
as it is.
-/

namespace ViewCompiler
namespace Binding

namespace Scan

theorem passesDown_iff {scan : Scan} {target : BindTarget} :
    scan.passesDown target = true ↔
      target.name ∈ scan.used ∧ target.setter ∈ scan.used := by
  simp [passesDown]

theorem mem_internal_iff {scan : Scan} {target : BindTarget} :
    target ∈ scan.classify.internal ↔
      target ∈ scan.targets ∧
        ¬(target.name ∈ scan.used ∧ target.setter ∈ scan.used) := by
  simp only [classify, List.mem_filter, ← passesDown_iff, Bool.not_eq_true,
    Bool.not_eq_eq_eq_not, Bool.not_true]

theorem mem_external_iff {scan : Scan} {target : BindTarget} :
    target ∈ scan.classify.external ↔
      target ∈ scan.targets ∧
        target.name ∈ scan.used ∧ target.setter ∈ scan.used := by
  simp only [classify, List.mem_filter, passesDown_iff]

theorem mem_internal_or_mem_external {scan : Scan} {target : BindTarget}
    (htarget : target ∈ scan.targets) :
    target ∈ scan.classify.internal ∨ target ∈ scan.classify.external := by
  by_cases hused : target.name ∈ scan.used ∧ target.setter ∈ scan.used
  · exact Or.inr (mem_external_iff.mpr ⟨htarget, hused⟩)
  · exact Or.inl (mem_internal_iff.mpr ⟨htarget, hused⟩)

theorem internal_sublist (scan : Scan) :
    scan.classify.internal.Sublist scan.targets :=
  List.filter_sublist

theorem external_sublist (scan : Scan) :
    scan.classify.external.Sublist scan.targets :=
  List.filter_sublist

private theorem internal_append_external_perm (scan : Scan) :
    (scan.classify.internal ++ scan.classify.external).Perm scan.targets := by
  have hperm := List.filter_append_perm scan.passesDown scan.targets
  exact List.perm_append_comm.trans hperm

theorem internal_disjoint_external (scan : Scan) :
    scan.classify.internal.Disjoint scan.classify.external := by
  intro target hinternal hexternal
  exact (mem_internal_iff.mp hinternal).2 (mem_external_iff.mp hexternal).2

theorem Covers.nodup_targetNames {scan : Scan} {nodes : List Node}
    (hcovers : scan.Covers nodes) :
    (scan.targets.map BindTarget.name).Nodup := by
  rw [hcovers.targetNames]
  exact List.nodup_eraseDups _

end Scan

/-- The scan finds exactly the targets that the markup is bound to, in the
order of the walk, with the initial value of the first element each, and warns
about every other bind; the partition splits the targets in two by whether the
program refers to a target and to its setter. -/
theorem scan_targets_partition_exact (program : Program) :
    let found := scan program
    let partition := found.classify
    ((found.targets.map BindTarget.name).Nodup ∧
      found.targets.map BindTarget.name =
        (program.nodes.filterMap boundTarget?).eraseDups) ∧
    (∀ target ∈ found.targets, FirstBind program.nodes target) ∧
    found.warnings.length = program.nodes.countP isLeftUnbound ∧
    partition.internal.Sublist found.targets ∧
    partition.external.Sublist found.targets ∧
    partition.internal.Disjoint partition.external ∧
    (partition.internal ++ partition.external).Perm found.targets ∧
    ∀ target ∈ found.targets,
      (target ∈ partition.external ↔
        target.name ∈ found.used ∧ target.setter ∈ found.used) := by
  intro found partition
  have hcovers : found.Covers program.nodes := scan_covers program
  refine ⟨⟨hcovers.nodup_targetNames, hcovers.targetNames⟩,
    hcovers.firstBind, hcovers.warningCount, found.internal_sublist,
    found.external_sublist, found.internal_disjoint_external,
    found.internal_append_external_perm, ?_⟩
  intro target htarget
  rw [Scan.mem_external_iff]
  exact and_iff_right htarget

end Binding
end ViewCompiler
