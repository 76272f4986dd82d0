import ViewCompiler.Proofs.Compilation.Session

/-!
# The elements that a registry refuses

Which elements fail, said of the registry and the nodes alone: an element of a
registered component is refused if its properties, as they are known before
anything is rendered, do not pass.  The checks that a compiler makes have exactly
these failures, in the order of the nodes, up to the point where it stops.
-/

namespace ViewCompiler

/-- A property as it is known before rendering: of an expression, nothing but
its text. -/
def PropValue.beforeRendering : PropValue → Value
  | literal value => value.toValue
  | expression e => .runtime e.text

/-- The properties of an element that are checked. -/
def checkedProps (props : Props) : Entries Value :=
  props.filterMap fun (key, value) =>
    if key = "bind" ∨ key = "initial" ∨ key = "bindDefault" then none
    else some (key, value.beforeRendering)

theorem checkedProps_cons (key : String) (value : PropValue) (rest : Props) :
    checkedProps ((key, value) :: rest) =
      if key ∈ Name.directives then checkedProps rest
      else (key, value.beforeRendering) :: checkedProps rest := by
  have hdirective : key ∈ Name.directives ↔
      key = "bind" ∨ key = "initial" ∨ key = "bindDefault" := by
    simp [Name.directives]
  by_cases hkey : key ∈ Name.directives
  · simp [checkedProps, hkey, hdirective.mp hkey]
  · simp [checkedProps, hkey, mt hdirective.mpr hkey]

namespace Registry

/-- The component of a node and its failure, if the node is refused. -/
def refusal? (registry : Registry) : Node → Option (String × Failure)
  | .element tag props _ =>
    if registry.has tag then
      match registry.validate tag (some (checkedProps props)) with
      | .ok _ => none
      | .error failure => some (tag, failure)
    else none
  | _ => none

/-- The refused elements among nodes, with their failures. -/
def refusals (registry : Registry) (nodes : List Node) :
    List (String × Failure) :=
  nodes.filterMap registry.refusal?

theorem refusals_append (registry : Registry) (first second : List Node) :
    registry.refusals (first ++ second) =
      registry.refusals first ++ registry.refusals second :=
  List.filterMap_append

end Registry

namespace Check

/-- The component of a check and its failure, if it has failed. -/
def refusal? (check : Check) : Option (String × Failure) :=
  check.failure?.map fun failure => (check.component, failure)

theorem input_eq_checkedProps (props : Props) :
    input props = checkedProps props := by
  induction props with
  | nil => rfl
  | cons entry rest ih =>
      obtain ⟨key, value⟩ := entry
      rw [checkedProps_cons, ← ih]
      by_cases hkey : key ∈ Name.directives
      · simp [input, Name.isDirective, hkey]
      · cases value with
        | literal value =>
            simp [input, Name.isDirective, hkey, PropValue.beforeRendering]
        | expression e =>
            simp [input, Name.isDirective, hkey, PropValue.beforeRendering]

theorem ofNode_bind_refusal? (registry : Registry) (node : Node) :
    (ofNode registry node).bind refusal? = registry.refusal? node := by
  cases node with
  | element tag props children =>
      by_cases hhas : registry.has tag = true
      · simp only [ofNode, Registry.refusal?, hhas, if_true, Option.bind_some,
          refusal?, failure?, run, input_eq_checkedProps]
        cases registry.validate tag (some (checkedProps props)) with
        | ok accepted => rfl
        | error failure => rfl
      · simp only [ofNode, Registry.refusal?, hhas, Bool.false_eq_true,
          if_false, Option.bind_none]
  | conditional condition children => rfl
  | loop item source children => rfl

theorem filterMap_refusal?_ofNode (registry : Registry) (nodes : List Node) :
    (nodes.filterMap (ofNode registry)).filterMap refusal? =
      registry.refusals nodes := by
  rw [List.filterMap_filterMap, Registry.refusals]
  simp only [ofNode_bind_refusal?]

private theorem filterMap_failure?_eq (checks : List Check) :
    checks.filterMap failure? = (checks.filterMap refusal?).map Prod.snd := by
  rw [List.map_filterMap]
  congr 1
  funext check
  cases hfailure : check.failure? with
  | none => simp [refusal?, hfailure]
  | some failure => simp [refusal?, hfailure]

theorem firstError_eq_head? (checks : List Check) :
    firstError checks = (checks.filterMap refusal?).head?.map
      fun refusal => ⟨refusal.1, refusal.2⟩ := by
  induction checks with
  | nil => rfl
  | cons check rest ih =>
      cases hfailure : check.failure? with
      | none => simp [firstError, refusal?, hfailure, ih]
      | some failure => simp [firstError, refusal?, hfailure]

theorem refusals_untilFailure (checks : List Check) :
    (untilFailure checks).filterMap refusal? =
      (checks.filterMap refusal?).take 1 := by
  induction checks with
  | nil => rfl
  | cons check rest ih =>
      cases hfailure : check.failure? with
      | none => simp [untilFailure, refusal?, hfailure, ih]
      | some failure => simp [untilFailure, refusal?, hfailure]

end Check

/-! ## Refusals that a compiler gets to -/

namespace Check

variable {strict : Bool} {checks : List Check}

theorem conclusion_of_firstError {error : CompilationError}
    (herror : firstError checks = some error)
    (comparison : Option Comparison) :
    conclusion true checks comparison = .error (.failed error) := by
  simp [conclusion, herror]

section Passing

variable
  (hpasses : (if strict then firstError checks else none) = none)

include hpasses

theorem conclusion_of_complete :
    conclusion strict checks none = .ok checks := by
  unfold conclusion
  rw [hpasses]

theorem conclusion_of_comparison (comparison : Comparison) :
    conclusion strict checks (some comparison) =
      .error (.interrupted comparison) := by
  unfold conclusion
  rw [hpasses]

end Passing

end Check

namespace Compiler

variable {compiler : Compiler} {program : Program}

theorem isPrefix_reachableRefusals (compiler : Compiler) (program : Program) :
    (compiler.reachableChecks program).filterMap Check.refusal? <+:
      (compiler.defineAll program.definitions).registry.refusals
        program.nodes := by
  let registry := (compiler.defineAll program.definitions).registry
  obtain ⟨after, hafter⟩ :=
    Check.exists_eq_interrupted_append registry program.nodes
  refine ⟨registry.refusals after, ?_⟩
  rw [reachableChecks, Check.filterMap_refusal?_ofNode,
    ← Registry.refusals_append, ← hafter]

theorem reachableRefusals_eq
    (hnone : compiler.interruptingComparison? program = none) :
    (compiler.reachableChecks program).filterMap Check.refusal? =
      (compiler.defineAll program.definitions).registry.refusals
        program.nodes := by
  rw [reachableChecks, Check.filterMap_refusal?_ofNode,
    Check.interrupted_fst_of_none hnone]

theorem hasNumericBounds_of_interrupting {comparison : Comparison}
    (hcomparison : compiler.interruptingComparison? program =
      some comparison) : compiler.hasNumericBounds = false := by
  rw [Bool.eq_false_iff]
  intro hnumeric
  rw [interruptingComparison?_eq_none hnumeric] at hcomparison
  contradiction

theorem no_error_of_lenient (hlenient : compiler.settings.strict = false)
    (checks : List Check) :
    (if compiler.settings.strict then Check.firstError checks else none) =
      none := by
  rw [hlenient]
  rfl

section Passing

variable {source : Source} {log : Log}
  (hload : source.load = .ok (program, log))
  (hpasses : (if compiler.settings.strict then
    Check.firstError (compiler.reachableChecks program) else none) = none)

include hload hpasses

theorem answer_of_passing
    (hnone : compiler.interruptingComparison? program = none) :
    let defined := compiler.defineAll program.definitions
    let refusals := defined.registry.refusals program.nodes
    let result := defined.result program (compiler.reachableChecks program)
    compiler.answer source = .ok result ∧
      result.failures = refusals.map Prod.snd ∧
      (compiler.settings.strict = true → refusals = []) := by
  intro defined refusals result
  have hrefusals :
      (compiler.reachableChecks program).filterMap Check.refusal? =
        refusals := reachableRefusals_eq hnone
  refine ⟨?_, ?_, ?_⟩
  · rw [answer_eq_conclusion hload, hnone,
      Check.conclusion_of_complete hpasses]
    rfl
  · rw [← hrefusals]
    exact Check.filterMap_failure?_eq (compiler.reachableChecks program)
  · intro hstrict
    rw [hstrict, if_pos rfl, Check.firstError_eq_head?,
      Option.map_eq_none_iff, List.head?_eq_none_iff, hrefusals] at hpasses
    exact hpasses

theorem answer_of_comparison {comparison : Comparison}
    (hcomparison : compiler.interruptingComparison? program =
      some comparison) :
    compiler.answer source = .error (.interrupted comparison) := by
  rw [answer_eq_conclusion hload, hcomparison,
    Check.conclusion_of_comparison hpasses]
  rfl

end Passing

/-- A lenient compiler reports exactly the refused elements of a program, unless
a bound that is no number interrupts it. -/
theorem answer_of_lenient {source : Source} {log : Log}
    (hlenient : compiler.settings.strict = false)
    (hload : source.load = .ok (program, log)) :
    (∃ result, compiler.answer source = .ok result ∧
      result.failures =
        ((compiler.defineAll program.definitions).registry.refusals
          program.nodes).map Prod.snd) ∨
      compiler.hasNumericBounds = false ∧
        ∃ comparison,
          compiler.answer source = .error (.interrupted comparison) := by
  have hpasses :=
    no_error_of_lenient hlenient (compiler.reachableChecks program)
  cases hcomparison : compiler.interruptingComparison? program with
  | none =>
      obtain ⟨hanswer, hfailures, _⟩ :=
        answer_of_passing hload hpasses hcomparison
      exact Or.inl ⟨_, hanswer, hfailures⟩
  | some comparison =>
      exact Or.inr ⟨hasNumericBounds_of_interrupting hcomparison, comparison,
        answer_of_comparison hload hpasses hcomparison⟩

/-- A strict compiler that meets a refused element stops at the first of them,
whatever comes later. -/
theorem answer_of_firstError {source : Source} {log : Log}
    {error : CompilationError} (hload : source.load = .ok (program, log))
    (hstrict : compiler.settings.strict = true)
    (herror : Check.firstError (compiler.reachableChecks program) =
      some error) :
    compiler.answer source = .error (.failed error) ∧
      ∃ later,
        (compiler.defineAll program.definitions).registry.refusals
            program.nodes = (error.component, error.failure) :: later := by
  constructor
  · rw [answer_eq_conclusion hload, hstrict,
      Check.conclusion_of_firstError herror]
    rfl
  · rw [Check.firstError_eq_head?] at herror
    obtain ⟨refusal, hhead, rfl⟩ := Option.map_eq_some_iff.mp herror
    obtain ⟨told, htold⟩ := List.head?_eq_some_iff.mp hhead
    obtain ⟨later, hlater⟩ := compiler.isPrefix_reachableRefusals program
    refine ⟨told ++ later, ?_⟩
    rw [← hlater, htold]
    rfl

end Compiler

namespace Session

/-- A compilation ends as the refused elements have it.  It gives a result with
all their failures; a strict one does so only if there are none, and stops at
the first otherwise.  A schema with a bound that is no number may interrupt it
instead. -/
def Reports (session : Session) (source : Source)
    (refusals : List (String × Failure)) : Prop :=
  (∃ result, (session.compile source).1 = .ok result ∧
    result.failures = refusals.map Prod.snd ∧
    (session.compiler.settings.strict = true → refusals = [])) ∨
  (session.compiler.settings.strict = true ∧
    ∃ tag failure later, refusals = (tag, failure) :: later ∧
      (session.compile source).1 = .error (.failed ⟨tag, failure⟩)) ∨
  session.compiler.hasNumericBounds = false ∧
    ∃ comparison,
      (session.compile source).1 = .error (.interrupted comparison)

/-- Elements are checked against the registry that a compilation leaves. -/
theorem registry_compile {session : Session} {source : Source}
    {program : Program} {log : Log} (huncut : session.Uncut source)
    (hload : source.load = .ok (program, log)) :
    (session.compile source).2.compiler.registry =
      (session.compiler.defineAll program.definitions).registry := by
  rw [compile_compiler huncut, Source.content_of_load hload]

theorem reports_refusals {session : Session} {source : Source}
    {program : Program} {log : Log} (huncut : session.Uncut source)
    (hload : source.load = .ok (program, log)) :
    session.Reports source
      ((session.compile source).2.compiler.registry.refusals
        program.nodes) := by
  unfold Reports
  rw [registry_compile huncut hload, compile_fst huncut]
  cases hfatal : (if session.compiler.settings.strict then
      Check.firstError (session.compiler.reachableChecks program)
      else none) with
  | some error =>
      obtain ⟨hstrict, herror⟩ := Option.ite_none_right_eq_some.mp hfatal
      obtain ⟨hanswer, later, hrefusals⟩ :=
        Compiler.answer_of_firstError hload hstrict herror
      exact Or.inr (Or.inl ⟨hstrict, _, _, later, hrefusals, hanswer⟩)
  | none =>
      cases hcomparison : session.compiler.interruptingComparison? program with
      | none =>
          exact Or.inl
            ⟨_, Compiler.answer_of_passing hload hfatal hcomparison⟩
      | some comparison =>
          exact Or.inr (Or.inr
            ⟨Compiler.hasNumericBounds_of_interrupting hcomparison, comparison,
              Compiler.answer_of_comparison hload hfatal hcomparison⟩)

theorem Reports.exists_result {session : Session} {source : Source}
    {refusals : List (String × Failure)}
    (hreports : session.Reports source refusals)
    (hlenient : session.compiler.settings.strict = false)
    (hnumeric : session.compiler.hasNumericBounds = true) :
    ∃ result, (session.compile source).1 = .ok result ∧
      result.failures = refusals.map Prod.snd := by
  rcases hreports with
    ⟨result, hresult, hfailures, _⟩ | ⟨hstrict, _⟩ | ⟨hbounds, _⟩
  · exact ⟨result, hresult, hfailures⟩
  · rw [hlenient] at hstrict
    contradiction
  · rw [hnumeric] at hbounds
    contradiction

end Session

end ViewCompiler
