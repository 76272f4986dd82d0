import ViewCompiler.Binding
import ViewCompiler.Proofs.General
import ViewCompiler.Proofs.Name

/-!
# What a scan of a program has found

A scan walks the tree of a program and changes its state at every node.  The
invariant below says what the state is after a list of nodes: which names are
in use, which targets were found and from which element each of them has its
initial value, and how many binds were warned about.  Taking up one more node
keeps the invariant, so it holds for a whole program, whose nodes are taken up
in the order in which a walk lists them.
-/

namespace ViewCompiler
namespace Binding

/-- A node mentions a name by a plain path, or binds it as the item of a
loop. -/
inductive Mentions : Node → String → Prop
  | property {tag : String} {props : Props} {children : List Node}
      {key : String} {e : Expression} {name : String}
      (hprop : (key, .expression e) ∈ props)
      (hkey : Name.isDirective key = false)
      (hroot : e.root = some name) :
      Mentions (.element tag props children) name
  | handler {tag : String} {props : Props} {children : List Node}
      {key text : String}
      (hprop : (key, .literal (.text text)) ∈ props)
      (hkey : Name.isEventKey key = true)
      (hpath : Name.isPath text = true) :
      Mentions (.element tag props children) (Name.pathRoot (Text.trim text))
  | condition {condition : Expression} {children : List Node} {name : String}
      (hroot : condition.root = some name) :
      Mentions (.conditional condition children) name
  | source {item : String} {source : Expression} {children : List Node}
      {name : String} (hroot : source.root = some name) :
      Mentions (.loop item source children) name
  | item {item : String} {source : Expression} {children : List Node} :
      Mentions (.loop item source children) item

/-- The target that the markup of a node is bound to. -/
def boundTarget? : Node → Option String
  | .element _ props _ => target? props
  | _ => none

/-- The node has a bind, but its markup is bound to nothing. -/
def isLeftUnbound : Node → Bool
  | .element _ props _ => Entries.has props "bind" && (target? props).isNone
  | _ => false

/-! ## First occurrences -/

/-! ## Names in use -/

theorem propReference_expression (key : String) (e : Expression) :
    propReference key (.expression e) =
      if Name.isDirective key then none else e.root := rfl

theorem propReference_text (key text : String) :
    propReference key (.literal (.text text)) =
      if Name.isEventKey key && Name.isPath text then
        some (Name.pathRoot (Text.trim text))
      else none := by
  unfold propReference
  by_cases hhandler : (Name.isEventKey key && Name.isPath text) = true
  · have hkey : Name.isEventKey key = true := by
      simp only [Bool.and_eq_true] at hhandler
      exact hhandler.1
    have hpath : Name.isPath text = true := by
      simp only [Bool.and_eq_true] at hhandler
      exact hhandler.2
    simp [Name.isDirective_of_isEventKey hkey, hhandler,
      Expression.root_of_isPath hpath]
  · simp [hhandler]

/-- An element mentions exactly the names that its properties refer to. -/
theorem mentions_element_iff {tag : String} {props : Props}
    {children : List Node} {name : String} :
    Mentions (.element tag props children) name ↔
      ∃ prop ∈ props, propReference prop.1 prop.2 = some name := by
  constructor
  · intro hmentions
    cases hmentions with
    | property hprop hkey hroot =>
        refine ⟨_, hprop, ?_⟩
        rw [propReference_expression, hkey]
        exact hroot
    | handler hprop hkey hpath =>
        refine ⟨_, hprop, ?_⟩
        simp [propReference_text, hkey, hpath]
  · rintro ⟨⟨key, value⟩, hprop, hreference⟩
    cases value with
    | expression e =>
        rw [propReference_expression] at hreference
        by_cases hkey : Name.isDirective key = true
        · simp [hkey] at hreference
        · simp only [hkey] at hreference
          exact .property hprop (by simpa using hkey) hreference
    | literal value =>
        cases value with
        | bool b => simp [propReference, reference] at hreference
        | number n => simp [propReference, reference] at hreference
        | text text =>
            simp only [propReference_text] at hreference
            by_cases hhandler : (Name.isEventKey key && Name.isPath text) = true
            · rw [if_pos hhandler, Option.some.injEq] at hreference
              subst name
              rw [Bool.and_eq_true] at hhandler
              exact .handler hprop hhandler.1 hhandler.2
            · simp [hhandler] at hreference

theorem mentions_conditional_iff {condition : Expression}
    {children : List Node} {name : String} :
    Mentions (.conditional condition children) name ↔
      condition.root = some name := by
  constructor
  · intro hmentions
    cases hmentions with
    | condition hroot => exact hroot
  · exact .condition

theorem mentions_loop_iff {item : String} {source : Expression}
    {children : List Node} {name : String} :
    Mentions (.loop item source children) name ↔
      source.root = some name ∨ item = name := by
  constructor
  · intro hmentions
    cases hmentions with
    | source hroot => exact Or.inl hroot
    | item => exact Or.inr rfl
  · rintro (hroot | rfl)
    · exact .source hroot
    · exact .item

namespace Scan

@[simp] theorem mem_used_use {scan : Scan} {found : Option String}
    {name : String} :
    name ∈ (scan.use found).used ↔ name ∈ scan.used ∨ found = some name := by
  cases found with
  | none => simp [use]
  | some other =>
      simp only [use, List.mem_insert_iff, Option.some.injEq]
      constructor
      · rintro (rfl | hused)
        · exact Or.inr rfl
        · exact Or.inl hused
      · rintro (hused | rfl)
        · exact Or.inr hused
        · exact Or.inl rfl

@[simp] theorem use_targets (scan : Scan) (found : Option String) :
    (scan.use found).targets = scan.targets := by
  cases found <;> rfl

@[simp] theorem use_warnings (scan : Scan) (found : Option String) :
    (scan.use found).warnings = scan.warnings := by
  cases found <;> rfl

@[simp] theorem mem_used_useAll {scan : Scan} {props : Props} {name : String} :
    name ∈ (scan.useAll props).used ↔
      name ∈ scan.used ∨
        ∃ prop ∈ props, propReference prop.1 prop.2 = some name := by
  unfold useAll
  induction props generalizing scan with
  | nil => simp
  | cons prop rest ih =>
      rw [List.foldl_cons, ih, mem_used_use, or_assoc]
      simp only [List.exists_mem_cons_iff]

@[simp] theorem useAll_targets (scan : Scan) (props : Props) :
    (scan.useAll props).targets = scan.targets := by
  unfold useAll
  induction props generalizing scan with
  | nil => rfl
  | cons prop rest ih => rw [List.foldl_cons, ih, use_targets]

@[simp] theorem useAll_warnings (scan : Scan) (props : Props) :
    (scan.useAll props).warnings = scan.warnings := by
  unfold useAll
  induction props generalizing scan with
  | nil => rfl
  | cons prop rest ih => rw [List.foldl_cons, ih, use_warnings]

/-! ## Binds -/

@[simp] theorem target?_isSome_iff {scan : Scan} {name : String} :
    (scan.target? name).isSome = true ↔
      name ∈ scan.targets.map BindTarget.name := by
  simp [target?, List.find?_isSome]

@[simp] theorem addTarget_used (scan : Scan) (target : BindTarget) :
    (scan.addTarget target).used = scan.used := by
  unfold addTarget
  split <;> rfl

@[simp] theorem addTarget_warnings (scan : Scan) (target : BindTarget) :
    (scan.addTarget target).warnings = scan.warnings := by
  unfold addTarget
  split <;> rfl

theorem addTarget_targets_of_mem {scan : Scan} {target : BindTarget}
    (hmem : target.name ∈ scan.targets.map BindTarget.name) :
    (scan.addTarget target).targets = scan.targets := by
  rw [addTarget, if_pos (target?_isSome_iff.mpr hmem)]

theorem addTarget_targets_of_notMem {scan : Scan} {target : BindTarget}
    (hnew : target.name ∉ scan.targets.map BindTarget.name) :
    (scan.addTarget target).targets = scan.targets ++ [target] := by
  rw [addTarget, if_neg (fun hsome => hnew (target?_isSome_iff.mp hsome))]

/-- The scan makes a target of a bind exactly where the markup is bound, and
of the same name; every other bind is warned about. -/
theorem bind_cases (scan : Scan) (tag : String) {props : Props}
    {value : PropValue} (hbind : Entries.get? props "bind" = some value) :
    (∃ name, Binding.target? props = some name ∧
        scan.bind tag props value =
          scan.addTarget { name, initial := initialValue props }) ∨
      (Binding.target? props = none ∧
        scan.bind tag props value =
          scan.warn (warning tag (bindContent value))) := by
  unfold Binding.target? bind
  rw [hbind, Option.map_some]
  cases bindContent value with
  | bool b => exact Or.inr ⟨rfl, rfl⟩
  | number n => exact Or.inr ⟨rfl, rfl⟩
  | text text =>
      by_cases htarget : Name.isTarget text = true
      · left
        exact ⟨text, by simp [htarget], by simp [htarget]⟩
      · right
        exact ⟨by simp [htarget], by simp [htarget]⟩

/-- What taking up an element does beyond counting the names in use. -/
theorem take_element_cases (scan : Scan) (tag : String) (props : Props)
    (children : List Node) :
    (∃ name, Binding.target? props = some name ∧
        scan.take (.element tag props children) =
          (scan.useAll props).addTarget
            { name, initial := initialValue props }) ∨
      (Binding.target? props = none ∧
        isLeftUnbound (.element tag props children) = true ∧
        ∃ failure, scan.take (.element tag props children) =
          (scan.useAll props).warn failure) ∨
      (Binding.target? props = none ∧
        isLeftUnbound (.element tag props children) = false ∧
        scan.take (.element tag props children) = scan.useAll props) := by
  cases hbind : Entries.get? props "bind" with
  | none =>
      right
      right
      refine ⟨by simp [Binding.target?, hbind], ?_, by simp [take, hbind]⟩
      simp [isLeftUnbound, Entries.has, hbind]
  | some value =>
      have htake : scan.take (.element tag props children) =
          (scan.useAll props).bind tag props value := by
        simp [take, hbind]
      rcases (scan.useAll props).bind_cases tag hbind with
        ⟨name, htarget, hstep⟩ | ⟨htarget, hstep⟩
      · left
        exact ⟨name, htarget, htake.trans hstep⟩
      · right
        left
        refine ⟨htarget, ?_, _, htake.trans hstep⟩
        simp [isLeftUnbound, Entries.has, hbind, htarget]

/-! ## One node -/

theorem mem_used_take {scan : Scan} {node : Node} {name : String} :
    name ∈ (scan.take node).used ↔
      name ∈ scan.used ∨ Mentions node name := by
  cases node with
  | element tag props children =>
      rw [mentions_element_iff, ← mem_used_useAll]
      rcases scan.take_element_cases tag props children with
        ⟨target, _, htake⟩ | ⟨_, _, failure, htake⟩ | ⟨_, _, htake⟩
      · rw [htake, addTarget_used]
      · rw [htake, warn]
      · rw [htake]
  | conditional condition children =>
      rw [take, mem_used_use]
      constructor
      · rintro (hused | hroot)
        · exact Or.inl hused
        · exact Or.inr (.condition hroot)
      · rintro (hused | hmentions)
        · exact Or.inl hused
        · cases hmentions with
          | condition hroot => exact Or.inr hroot
  | loop item source children =>
      rw [take, mem_used_use, mem_used_use]
      constructor
      · rintro ((hused | hroot) | hitem)
        · exact Or.inl hused
        · exact Or.inr (.source hroot)
        · rw [Option.some.injEq] at hitem
          subst name
          exact Or.inr .item
      · rintro (hused | hmentions)
        · exact Or.inl (Or.inl hused)
        · cases hmentions with
          | source hroot => exact Or.inl (Or.inr hroot)
          | item => exact Or.inr rfl

theorem take_targets_of_unbound {scan : Scan} {node : Node}
    (hunbound : boundTarget? node = none) :
    (scan.take node).targets = scan.targets := by
  cases node with
  | element tag props children =>
      rcases scan.take_element_cases tag props children with
        ⟨name, htarget, _⟩ | ⟨_, _, failure, htake⟩ | ⟨_, _, htake⟩
      · rw [boundTarget?, htarget] at hunbound
        contradiction
      · rw [htake, warn, useAll_targets]
      · rw [htake, useAll_targets]
  | conditional condition children => simp [take]
  | loop item source children => simp [take]

theorem take_targets_of_bound (scan : Scan) {tag : String} {props : Props}
    {children : List Node} {name : String}
    (hbound : Binding.target? props = some name) :
    (scan.take (.element tag props children)).targets =
      ((scan.useAll props).addTarget
        { name, initial := initialValue props }).targets := by
  rcases scan.take_element_cases tag props children with
    ⟨other, htarget, htake⟩ | ⟨htarget, _⟩ | ⟨htarget, _⟩
  · rw [hbound, Option.some.injEq] at htarget
    subst other
    rw [htake]
  · rw [hbound] at htarget
    contradiction
  · rw [hbound] at htarget
    contradiction

theorem length_warnings_take (scan : Scan) (node : Node) :
    (scan.take node).warnings.length =
      scan.warnings.length + if isLeftUnbound node = true then 1 else 0 := by
  cases node with
  | element tag props children =>
      rcases scan.take_element_cases tag props children with
        ⟨name, htarget, htake⟩ | ⟨_, hleft, failure, htake⟩ |
          ⟨_, hleft, htake⟩
      · have hleft : isLeftUnbound (.element tag props children) = false := by
          simp [isLeftUnbound, htarget]
        rw [htake, addTarget_warnings, useAll_warnings, hleft]
        rfl
      · rw [htake, hleft]
        simp [warn]
      · rw [htake, useAll_warnings, hleft]
        rfl
  | conditional condition children => simp [take, isLeftUnbound]
  | loop item source children => simp [take, isLeftUnbound]

end Scan

/-! ## The invariant -/

/-- Of the nodes in order, the first one that is bound to the name of a target
gives the target its initial value. -/
def FirstBind (nodes : List Node) (target : BindTarget) : Prop :=
  ∃ before tag props children after,
    nodes = before ++ .element tag props children :: after ∧
      (∀ node ∈ before, boundTarget? node ≠ some target.name) ∧
      target? props = some target.name ∧
      target.initial =
        (((Entries.get? props "initial").or
          (Entries.get? props "bindDefault")).map PropValue.toValue).getD
            (.text "")

private theorem initialValue_eq (props : Props) :
    initialValue props =
      (((Entries.get? props "initial").or
        (Entries.get? props "bindDefault")).map PropValue.toValue).getD
          (.text "") := by
  unfold initialValue
  cases Entries.get? props "initial" with
  | some value => rfl
  | none =>
      cases Entries.get? props "bindDefault" with
      | some value => rfl
      | none => rfl

theorem FirstBind.append {nodes : List Node} {target : BindTarget}
    (hfirst : FirstBind nodes target) (more : List Node) :
    FirstBind (nodes ++ more) target := by
  obtain ⟨before, tag, props, children, after, rfl, hbefore, hrest⟩ := hfirst
  refine ⟨before, tag, props, children, after ++ more, ?_, hbefore, hrest⟩
  simp

/-- What a scan has found after a list of nodes. -/
structure Scan.Covers (scan : Scan) (nodes : List Node) : Prop where
  used_iff : ∀ name,
    name ∈ scan.used ↔ ∃ node ∈ nodes, Mentions node name
  targetNames :
    scan.targets.map BindTarget.name =
      (nodes.filterMap boundTarget?).eraseDups
  firstBind : ∀ target ∈ scan.targets, FirstBind nodes target
  warningCount : scan.warnings.length = nodes.countP isLeftUnbound

namespace Scan

private theorem covers_nil : ({} : Scan).Covers [] := by
  constructor <;> simp

theorem Covers.mem_targetNames_iff {scan : Scan} {nodes : List Node}
    (hcovers : scan.Covers nodes) {name : String} :
    name ∈ scan.targets.map BindTarget.name ↔
      ∃ node ∈ nodes, boundTarget? node = some name := by
  rw [hcovers.targetNames, List.mem_eraseDups, List.mem_filterMap]

/-- Taking up a node that is bound to nothing adds no target. -/
theorem Covers.targets_takeUnbound {scan : Scan} {nodes : List Node}
    (hcovers : scan.Covers nodes) {node : Node}
    (hunbound : boundTarget? node = none) :
    (scan.take node).targets.map BindTarget.name =
        ((nodes ++ [node]).filterMap boundTarget?).eraseDups ∧
      ∀ target ∈ (scan.take node).targets,
        FirstBind (nodes ++ [node]) target := by
  rw [take_targets_of_unbound hunbound]
  constructor
  · rw [hcovers.targetNames, List.filterMap_append]
    simp [hunbound]
  · intro target htarget
    exact (hcovers.firstBind target htarget).append [node]

theorem Covers.targets_takeBound {scan : Scan} {nodes : List Node}
    (hcovers : scan.Covers nodes) {tag : String} {props : Props}
    {children : List Node} {name : String}
    (hbound : Binding.target? props = some name) :
    (scan.take (.element tag props children)).targets.map BindTarget.name =
        ((nodes ++ [Node.element tag props children]).filterMap
          boundTarget?).eraseDups ∧
      ∀ target ∈ (scan.take (.element tag props children)).targets,
        FirstBind (nodes ++ [.element tag props children]) target := by
  have hlast : [Node.element tag props children].filterMap boundTarget? =
      [name] := by
    simp [boundTarget?, hbound]
  have hmemNames : name ∈ scan.targets.map BindTarget.name ↔
      name ∈ nodes.filterMap boundTarget? := by
    rw [hcovers.targetNames, List.mem_eraseDups]
  rw [take_targets_of_bound scan hbound, List.filterMap_append, hlast]
  by_cases hknown : name ∈ nodes.filterMap boundTarget?
  · -- The target keeps the initial value of an earlier element.
    have hmem := hmemNames.mpr hknown
    rw [addTarget_targets_of_mem (by simpa using hmem), useAll_targets,
      List.eraseDups_concat_of_mem hknown]
    refine ⟨hcovers.targetNames, ?_⟩
    intro target htarget
    exact (hcovers.firstBind target htarget).append _
  · have hnew := fun hmem => hknown (hmemNames.mp hmem)
    rw [addTarget_targets_of_notMem (by simpa using hnew), useAll_targets,
      List.eraseDups_concat_of_notMem hknown, ← hcovers.targetNames]
    constructor
    · simp
    · intro target htarget
      rcases List.mem_append.mp htarget with hold | hnew
      · exact (hcovers.firstBind target hold).append _
      · rw [List.mem_singleton] at hnew
        subst target
        refine ⟨nodes, tag, props, children, [], rfl, ?_, hbound,
          initialValue_eq props⟩
        intro node hnode hsome
        exact hknown (List.mem_filterMap.mpr ⟨node, hnode, hsome⟩)

/-- Taking up one more node keeps the invariant. -/
theorem Covers.take {scan : Scan} {nodes : List Node}
    (hcovers : scan.Covers nodes) (node : Node) :
    (scan.take node).Covers (nodes ++ [node]) := by
  have htargets :
      (scan.take node).targets.map BindTarget.name =
          ((nodes ++ [node]).filterMap boundTarget?).eraseDups ∧
        ∀ target ∈ (scan.take node).targets,
          FirstBind (nodes ++ [node]) target := by
    cases node with
    | element tag props children =>
        cases hbound : Binding.target? props with
        | none => exact hcovers.targets_takeUnbound hbound
        | some name => exact hcovers.targets_takeBound hbound
    | conditional condition children =>
        exact hcovers.targets_takeUnbound rfl
    | loop item source children =>
        exact hcovers.targets_takeUnbound rfl
  constructor
  · intro name
    rw [mem_used_take, hcovers.used_iff]
    simp only [List.mem_append, List.mem_singleton, or_and_right, exists_or,
      exists_eq_left]
  · exact htargets.1
  · exact htargets.2
  · rw [length_warnings_take, hcovers.warningCount, List.countP_append,
      List.countP_singleton]

theorem Covers.foldl_take {scan : Scan} {nodes : List Node}
    (hcovers : scan.Covers nodes) (more : List Node) :
    (more.foldl Scan.take scan).Covers (nodes ++ more) := by
  induction more generalizing scan nodes with
  | nil => simpa using hcovers
  | cons node rest ih =>
      have hnext := ih (hcovers.take node)
      rw [List.append_assoc] at hnext
      exact hnext

/-! ## Whole programs -/

mutual

/-- A visit takes up the nodes in the order of a walk. -/
theorem visit_eq_foldl_walk (scan : Scan) :
    ∀ node : Node, scan.visit node = node.walk.foldl Scan.take scan
  | .element tag props children => by
      rw [visit, Node.walk, List.foldl_cons]
      exact visitAll_eq_foldl_walkAll _ children
  | .conditional condition children => by
      rw [visit, Node.walk, List.foldl_cons]
      exact visitAll_eq_foldl_walkAll _ children
  | .loop item source children => by
      rw [visit, Node.walk, List.foldl_cons]
      exact visitAll_eq_foldl_walkAll _ children

theorem visitAll_eq_foldl_walkAll (scan : Scan) :
    ∀ nodes : List Node,
      scan.visitAll nodes = (Node.walkAll nodes).foldl Scan.take scan
  | [] => rfl
  | node :: rest => by
      rw [visitAll, Node.walkAll, List.foldl_append,
        ← visit_eq_foldl_walk scan node]
      exact visitAll_eq_foldl_walkAll _ rest

end

end Scan

theorem foldl_visitAll_bodies (scan : Scan) (definitions : List Definition) :
    definitions.foldl
        (fun scan definition => scan.visitAll definition.body) scan =
      (definitions.flatMap fun definition =>
        Node.walkAll definition.body).foldl Scan.take scan := by
  induction definitions generalizing scan with
  | nil => rfl
  | cons definition rest ih =>
      rw [List.foldl_cons, ih, Scan.visitAll_eq_foldl_walkAll,
        List.flatMap_cons, List.foldl_append]

theorem scan_eq_foldl_nodes (program : Program) :
    scan program = program.nodes.foldl Scan.take {} := by
  rw [scan, Scan.visitAll_eq_foldl_walkAll, foldl_visitAll_bodies,
    Program.nodes, List.foldl_append]

/-- The scan of a program covers the nodes of the program. -/
theorem scan_covers (program : Program) :
    (scan program).Covers program.nodes := by
  rw [scan_eq_foldl_nodes]
  exact Scan.covers_nil.foldl_take program.nodes

end Binding
end ViewCompiler
