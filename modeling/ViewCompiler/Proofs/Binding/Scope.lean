import ViewCompiler.Proofs.Binding.Partition
import Mathlib.Data.List.Nodup
import Mathlib.Data.List.Pairwise
import Mathlib.Data.String.Basic

/-!
# The scope of the generated component

The default export binds two kinds of names: its parameters, and for every
target that is state the target and its setter.  Together they cover all names
that the markup of the program refers to, so the generated module is closed.
A name is bound twice, or is missing among the parameters, only where the
setter of a state target meets another target of the program.
-/

namespace ViewCompiler
namespace Binding

/-- The markup of a node refers to a name: it mentions the name, or it is
bound to a target and reads and sets it. -/
inductive RefersTo (node : Node) : String → Prop
  | mention {name : String} (hmentions : Mentions node name) :
      RefersTo node name
  | read {target : String} (hbound : boundTarget? node = some target) :
      RefersTo node target
  | set {target : String} (hbound : boundTarget? node = some target) :
      RefersTo node (Name.setter target)

/-! ## Parameters and owned names -/

theorem mem_sortNames_iff {names : List String} {name : String} :
    name ∈ sortNames names ↔ name ∈ names := by
  rw [sortNames, List.mem_mergeSort, List.mem_eraseDups]

private theorem sortNames_pairwise_lt (names : List String) :
    (sortNames names).Pairwise (· < ·) := by
  have hsorted :
      (sortNames names).Pairwise fun a b => decide (a ≤ b) = true := by
    apply List.pairwise_mergeSort
    · intro a b c hab hbc
      simp only [decide_eq_true_eq] at hab hbc ⊢
      exact le_trans hab hbc
    · intro a b
      simp only [Bool.or_eq_true, decide_eq_true_eq]
      exact le_total a b
  have hnodup : (sortNames names).Nodup := by
    rw [sortNames, (List.mergeSort_perm _ _).nodup_iff]
    exact List.nodup_eraseDups names
  refine (hsorted.and hnodup).imp ?_
  rintro a b ⟨hle, hne⟩
  exact lt_of_le_of_ne (by simpa using hle) hne

theorem mem_owned_iff {partition : Partition} {name : String} :
    name ∈ partition.owned ↔
      ∃ target ∈ partition.internal,
        name = target.name ∨ name = target.setter := by
  simp [Partition.owned]

theorem mem_parameters_iff {scan : Scan} {partition : Partition}
    {name : String} :
    name ∈ parameters scan partition ↔
      name ∈ scan.used ∧ name ∉ partition.owned := by
  simp [parameters, mem_sortNames_iff]

theorem mem_parameters_or_mem_owned {scan : Scan} (partition : Partition)
    {name : String} (hused : name ∈ scan.used) :
    name ∈ parameters scan partition ∨ name ∈ partition.owned := by
  by_cases howned : name ∈ partition.owned
  · exact Or.inr howned
  · exact Or.inl (mem_parameters_iff.mpr ⟨hused, howned⟩)

theorem parameters_pairwise_lt (scan : Scan) (partition : Partition) :
    (parameters scan partition).Pairwise (· < ·) :=
  sortNames_pairwise_lt _

/-- A target and its setter are bound, whichever side of the partition the
target is on. -/
theorem target_bound {scan : Scan} {target : BindTarget}
    (htarget : target ∈ scan.targets) :
    (target.name ∈ parameters scan scan.classify ∨
        target.name ∈ scan.classify.owned) ∧
      (target.setter ∈ parameters scan scan.classify ∨
        target.setter ∈ scan.classify.owned) := by
  rcases Scan.mem_internal_or_mem_external htarget with hinternal | hexternal
  · constructor
    · exact Or.inr (mem_owned_iff.mpr ⟨target, hinternal, Or.inl rfl⟩)
    · exact Or.inr (mem_owned_iff.mpr ⟨target, hinternal, Or.inr rfl⟩)
  · have hused := (Scan.mem_external_iff.mp hexternal).2
    constructor
    · exact mem_parameters_or_mem_owned _ hused.1
    · exact mem_parameters_or_mem_owned _ hused.2

theorem refersTo_bound {program : Program} {node : Node} {name : String}
    (hnode : node ∈ program.nodes) (hrefers : RefersTo node name) :
    name ∈ parameters (scan program) (scan program).classify ∨
      name ∈ (scan program).classify.owned := by
  have hcovers := scan_covers program
  have htarget : ∀ target, boundTarget? node = some target →
      ∃ found ∈ (scan program).targets, found.name = target := by
    intro target hbound
    exact List.mem_map.mp
      (hcovers.mem_targetNames_iff.mpr ⟨node, hnode, hbound⟩)
  cases hrefers with
  | mention hmentions =>
      apply mem_parameters_or_mem_owned
      exact (hcovers.used_iff name).mpr ⟨node, hnode, hmentions⟩
  | read hbound =>
      obtain ⟨found, hfound, rfl⟩ := htarget _ hbound
      exact (target_bound hfound).1
  | @set target hbound =>
      obtain ⟨found, hfound, rfl⟩ := htarget _ hbound
      exact (target_bound hfound).2

/-- The scope of the generated component is closed.  Its parameters are listed
in increasing order; together with the state they cover every name that the
markup refers to; and every parameter is mentioned somewhere and is not bound
by the state. -/
theorem generated_scope_closed (program : Program) :
    let found := scan program
    let partition := found.classify
    let params := parameters found partition
    params.Pairwise (· < ·) ∧
    (∀ node ∈ program.nodes, ∀ name, RefersTo node name →
      name ∈ params ∨
        ∃ target ∈ partition.internal,
          name = target.name ∨ name = target.setter) ∧
    ∀ name ∈ params,
      (∃ node ∈ program.nodes, Mentions node name) ∧
        ∀ target ∈ partition.internal,
          name ≠ target.name ∧ name ≠ target.setter := by
  intro found partition params
  refine ⟨parameters_pairwise_lt found partition, ?_, ?_⟩
  · intro node hnode name hrefers
    rw [← mem_owned_iff]
    exact refersTo_bound hnode hrefers
  · intro name hname
    obtain ⟨hused, howned⟩ := mem_parameters_iff.mp hname
    refine ⟨((scan_covers program).used_iff name).mp hused, ?_⟩
    intro target htarget
    constructor
    · intro heq
      exact howned (mem_owned_iff.mpr ⟨target, htarget, Or.inl heq⟩)
    · intro heq
      exact howned (mem_owned_iff.mpr ⟨target, htarget, Or.inr heq⟩)

/-! ## Binders that collide -/

/-- Binding both targets with their setters binds some name twice, although
the targets have different names. -/
def Collide (target other : BindTarget) : Prop :=
  target.setter = other.setter ∨ target.setter = other.name ∨
    target.name = other.setter

instance (target other : BindTarget) : Decidable (Collide target other) :=
  inferInstanceAs (Decidable (_ ∨ _ ∨ _))

theorem disjoint_pairs_iff {target other : BindTarget}
    (hname : target.name ≠ other.name) :
    List.Disjoint [target.name, target.setter] [other.name, other.setter] ↔
      ¬Collide target other := by
  simp only [List.disjoint_cons_left, List.disjoint_nil_left, List.mem_cons,
    List.not_mem_nil, or_false, and_true, Collide, not_or]
  constructor
  · rintro ⟨⟨_, hnameSetter⟩, hsetterName, hsetters⟩
    exact ⟨hsetters, hsetterName, hnameSetter⟩
  · rintro ⟨hsetters, hsetterName, hnameSetter⟩
    exact ⟨⟨hname, hnameSetter⟩, hsetterName, hsetters⟩

theorem nodup_pair (target : BindTarget) :
    [target.name, target.setter].Nodup := by
  simpa [BindTarget.setter] using (Name.setter_ne_self target.name).symm

namespace Scan

variable {scan : Scan} {nodes : List Node}

theorem Covers.nodup_targets (hcovers : scan.Covers nodes) :
    scan.targets.Nodup :=
  hcovers.nodup_targetNames.of_map

theorem Covers.name_ne_of_ne (hcovers : scan.Covers nodes)
    {target other : BindTarget} (htarget : target ∈ scan.targets)
    (hother : other ∈ scan.targets) (hne : target ≠ other) :
    target.name ≠ other.name := by
  intro hname
  exact hne
    (List.inj_on_of_nodup_map hcovers.nodup_targetNames htarget hother hname)

/-- The state is bound without repetition if no two of its targets collide. -/
theorem Covers.nodup_owned_iff (hcovers : scan.Covers nodes) :
    scan.classify.owned.Nodup ↔
      ∀ state ∈ scan.classify.internal, ∀ other ∈ scan.classify.internal,
        other.name ≠ state.name → ¬Collide state other := by
  have hsublist := scan.internal_sublist
  unfold Partition.owned
  rw [List.nodup_flatMap, and_iff_right fun target _ => nodup_pair target]
  constructor
  · intro hpairwise state hstate other hother hname
    have hsymm : Std.Symm (Function.onFun List.Disjoint
        fun target : BindTarget => [target.name, target.setter]) :=
      ⟨fun _ _ hdisjoint => List.disjoint_symm hdisjoint⟩
    have hne : state ≠ other := by
      rintro rfl
      exact hname rfl
    exact (disjoint_pairs_iff (Ne.symm hname)).mp
      (hpairwise.forall hstate hother hne)
  · intro hfree
    apply (hcovers.nodup_targets.sublist hsublist).pairwise_of_forall_ne
    intro state hstate other hother hne
    have hname := hcovers.name_ne_of_ne (hsublist.mem hstate)
      (hsublist.mem hother) hne
    exact (disjoint_pairs_iff hname).mpr
      (hfree state hstate other hother (Ne.symm hname))

/-- A target from the caller arrives as a pair of parameters if it collides
with no target that is state. -/
theorem Covers.external_mem_parameters_iff (hcovers : scan.Covers nodes)
    {target : BindTarget} (hexternal : target ∈ scan.classify.external) :
    (target.name ∈ parameters scan scan.classify ∧
        target.setter ∈ parameters scan scan.classify) ↔
      ∀ state ∈ scan.classify.internal, ¬Collide state target := by
  obtain ⟨htarget, hname, hsetter⟩ := mem_external_iff.mp hexternal
  rw [mem_parameters_iff, mem_parameters_iff, and_iff_right hname,
    and_iff_right hsetter, mem_owned_iff, mem_owned_iff]
  constructor
  · rintro ⟨hnameFree, hsetterFree⟩ state hstate hcollide
    rcases hcollide with hsetters | hsetterName | hnameSetter
    · exact hsetterFree ⟨state, hstate, Or.inr hsetters.symm⟩
    · exact hnameFree ⟨state, hstate, Or.inr hsetterName.symm⟩
    · exact hsetterFree ⟨state, hstate, Or.inl hnameSetter.symm⟩
  · intro hfree
    constructor
    · rintro ⟨state, hstate, heq | heq⟩
      · -- Equal names would make one target state and property at once.
        have hsame : state = target :=
          List.inj_on_of_nodup_map hcovers.nodup_targetNames
            (scan.internal_sublist.mem hstate) htarget heq.symm
        subst target
        exact scan.internal_disjoint_external hstate hexternal
      · exact hfree state hstate (Or.inr (Or.inl heq.symm))
    · rintro ⟨state, hstate, heq | heq⟩
      · exact hfree state hstate (Or.inr (Or.inr heq.symm))
      · exact hfree state hstate (Or.inl heq.symm)

theorem nodup_parameters_append_owned_iff (scan : Scan) :
    (parameters scan scan.classify ++ scan.classify.owned).Nodup ↔
      scan.classify.owned.Nodup := by
  rw [List.nodup_append']
  constructor
  · intro hnodup
    exact hnodup.2.1
  · intro howned
    refine ⟨(parameters_pairwise_lt _ _).imp ne_of_lt, howned, ?_⟩
    intro name hparameter hname
    exact (mem_parameters_iff.mp hparameter).2 hname

end Scan

/-- The binders of the generated component are unambiguous exactly when no
target that is state collides with another target of the program.  The binders
are the parameters and, for every target that is state, the target and its
setter; unambiguous means that none is repeated and that every target from the
caller is there with its setter. -/
theorem binders_unambiguous_iff (program : Program) :
    let found := scan program
    let partition := found.classify
    let params := parameters found partition
    ((params ++ partition.internal.flatMap fun target =>
          [target.name, target.setter]).Nodup ∧
        ∀ target ∈ partition.external,
          target.name ∈ params ∧ target.setter ∈ params) ↔
      ∀ state ∈ partition.internal, ∀ other ∈ found.targets,
        other.name ≠ state.name → ¬Collide state other := by
  intro found partition params
  have hcovers : found.Covers program.nodes := scan_covers program
  change (params ++ partition.owned).Nodup ∧ _ ↔ _
  rw [found.nodup_parameters_append_owned_iff, hcovers.nodup_owned_iff]
  constructor
  · rintro ⟨hinternal, hexternal⟩ state hstate other hother hname
    rcases Scan.mem_internal_or_mem_external hother with hmem | hmem
    · exact hinternal state hstate other hmem hname
    · exact (hcovers.external_mem_parameters_iff hmem).mp
        (hexternal other hmem) state hstate
  · intro hfree
    constructor
    · intro state hstate other hother hname
      exact hfree state hstate other (found.internal_sublist.mem hother) hname
    · intro target htarget
      apply (hcovers.external_mem_parameters_iff htarget).mpr
      intro state hstate
      refine hfree state hstate target (found.external_sublist.mem htarget) ?_
      apply hcovers.name_ne_of_ne (found.external_sublist.mem htarget)
        (found.internal_sublist.mem hstate)
      rintro rfl
      exact found.internal_disjoint_external hstate htarget

/-- Two inputs bound to `count` and to `Count` share the setter `setCount`,
which the component then declares twice. -/
theorem binders_ambiguous_of_shared_setter :
    let program : Program :=
      { body :=
          [.element "Input" [("bind", .text "count")] [],
            .element "Input" [("bind", .text "Count")] []] }
    let found := scan program
    let partition := found.classify
    let params := parameters found partition
    ¬((params ++ partition.internal.flatMap fun target =>
          [target.name, target.setter]).Nodup ∧
        ∀ target ∈ partition.external,
          target.name ∈ params ∧ target.setter ∈ params) := by
  decide +kernel

end Binding
end ViewCompiler
