import ViewCompiler.Proofs.Compilation.Answer
import ViewCompiler.Proofs.Schema.NumericBounds

/-!
# Strict and lenient compilation

A strict compiler and a lenient one that differ in nothing else make the same
checks up to the first that fails.  There the strict one stops, and the lenient
one goes on and reports the failure as the first of its result.  An element can
interrupt both, but only where a bound of some schema is no number; the strict
one may have stopped before it gets there.
-/

namespace ViewCompiler

/-! ## The first failing check -/

namespace Check

/-- The first element of the nodes whose check fails, with its failure. -/
def FirstFailing (registry : Registry) (nodes : List Node) (tag : String)
    (failure : Failure) : Prop :=
  ∃ before props children after,
    nodes = before ++ .element tag props children :: after ∧
      (∀ node ∈ before, ∀ check ∈ ofNode registry node,
        check.failure? = none) ∧
      registry.has tag = true ∧
      registry.validate tag (some (input props)) = .error failure

theorem FirstFailing.cons {registry : Registry} {nodes : List Node}
    {tag : String} {failure : Failure} {node : Node}
    (hpasses : ∀ check ∈ ofNode registry node, check.failure? = none)
    (hfirst : FirstFailing registry nodes tag failure) :
    FirstFailing registry (node :: nodes) tag failure := by
  obtain ⟨before, props, children, after, rfl, hbefore, hfails⟩ := hfirst
  refine ⟨node :: before, props, children, after, rfl, ?_, hfails⟩
  exact List.forall_mem_cons.mpr ⟨hpasses, hbefore⟩

theorem failure?_eq_some_iff {check : Check} {failure : Failure} :
    check.failure? = some failure ↔ check.verdict = .error failure := by
  unfold failure?
  cases check.verdict with
  | ok accepted => simp
  | error found => simp

private theorem ofNode_eq_some {registry : Registry} {node : Node}
    {check : Check} (hcheck : ofNode registry node = some check) :
    ∃ props children, node = .element check.component props children ∧
      registry.has check.component = true ∧
      check.verdict =
        registry.validate check.component (some (input props)) := by
  cases node with
  | element tag props children =>
      by_cases hhas : registry.has tag = true
      · rw [ofNode, if_pos hhas, Option.some.injEq] at hcheck
        subst hcheck
        exact ⟨props, children, rfl, hhas, rfl⟩
      · rw [ofNode, if_neg hhas] at hcheck
        contradiction
  | conditional condition children => contradiction
  | loop item source children => contradiction

private theorem firstFailing_of_firstError {registry : Registry}
    {nodes : List Node} {error : CompilationError}
    (herror : firstError (nodes.filterMap (ofNode registry)) = some error) :
    FirstFailing registry nodes error.component error.failure := by
  induction nodes with
  | nil => contradiction
  | cons node rest ih =>
      rw [List.filterMap_cons] at herror
      cases hcheck : ofNode registry node with
      | none =>
          rw [hcheck] at herror
          exact (ih herror).cons (by simp [hcheck])
      | some check =>
          simp only [hcheck, firstError] at herror
          cases hfailure : check.failure? with
          | none =>
              rw [hfailure] at herror
              exact (ih herror).cons (by simp [hcheck, hfailure])
          | some failure =>
              rw [hfailure, Option.some.injEq] at herror
              subst herror
              obtain ⟨props, children, rfl, hhas, hverdict⟩ :=
                ofNode_eq_some hcheck
              refine ⟨[], props, children, rest, rfl, by simp, hhas, ?_⟩
              rw [← hverdict, ← failure?_eq_some_iff, hfailure]

theorem untilFailure_eq_self {checks : List Check}
    (hnone : checks.filterMap failure? = []) :
    untilFailure checks = checks := by
  induction checks with
  | nil => rfl
  | cons check rest ih =>
      rw [List.filterMap_eq_nil_iff, List.forall_mem_cons] at hnone
      have hrest := ih (List.filterMap_eq_nil_iff.mpr hnone.2)
      simp [untilFailure, hnone.1, hrest]

private theorem firstError_eq_none {checks : List Check}
    (hnone : checks.filterMap failure? = []) : firstError checks = none := by
  induction checks with
  | nil => rfl
  | cons check rest ih =>
      rw [List.filterMap_eq_nil_iff, List.forall_mem_cons] at hnone
      have hrest := ih (List.filterMap_eq_nil_iff.mpr hnone.2)
      simp [firstError, hnone.1, hrest]

theorem firstError_eq_some {checks : List Check} {failure : Failure}
    {later : List Failure}
    (hfailures : checks.filterMap failure? = failure :: later) :
    ∃ tag, firstError checks = some ⟨tag, failure⟩ := by
  induction checks with
  | nil => contradiction
  | cons check rest ih =>
      rw [List.filterMap_cons] at hfailures
      cases hfailure : check.failure? with
      | none =>
          rw [hfailure] at hfailures
          obtain ⟨tag, htag⟩ := ih hfailures
          exact ⟨tag, by simp [firstError, hfailure, htag]⟩
      | some found =>
          simp only [hfailure, List.cons.injEq] at hfailures
          exact ⟨check.component, by simp [firstError, hfailure, hfailures.1]⟩

private theorem firstError_append_of_some {checks : List Check}
    {error : CompilationError} (herror : firstError checks = some error)
    (more : List Check) : firstError (checks ++ more) = some error := by
  induction checks with
  | nil => contradiction
  | cons check rest ih =>
      simp only [List.cons_append, firstError] at herror ⊢
      cases hfailure : check.failure? with
      | none =>
          rw [hfailure] at herror
          exact ih herror
      | some failure =>
          rw [hfailure] at herror
          exact herror

/-! ## Interruptions -/

theorem exists_eq_interrupted_append (registry : Registry)
    (nodes : List Node) :
    ∃ after, nodes = (interrupted registry nodes).1 ++ after := by
  induction nodes with
  | nil => exact ⟨[], rfl⟩
  | cons node rest ih =>
      cases hcomparison : nodeComparison? registry node with
      | some comparison =>
          exact ⟨node :: rest, by simp [interrupted, hcomparison]⟩
      | none =>
          obtain ⟨after, hafter⟩ := ih
          refine ⟨after, ?_⟩
          simp only [interrupted, hcomparison, List.cons_append, ← hafter]

/-- A failure before the interruption is the first failure of all. -/
theorem firstError_of_interrupted {registry : Registry}
    {program : Program} {error : CompilationError}
    (herror : firstError ((interrupted registry program.nodes).1.filterMap
      (ofNode registry)) = some error) :
    firstError (all registry program) = some error := by
  obtain ⟨after, hnodes⟩ :=
    exists_eq_interrupted_append registry program.nodes
  have hall : all registry program =
      (interrupted registry program.nodes).1.filterMap (ofNode registry) ++
        after.filterMap (ofNode registry) := by
    rw [all, ← List.filterMap_append, ← hnodes]
  rw [hall]
  exact firstError_append_of_some herror _

section Numeric

variable {registry : Registry}
  (hnumeric : ∀ entry ∈ registry.components,
    Schema.propertiesHaveNumericBounds entry.2 = true)

include hnumeric

private theorem registryComparison?_eq_none (name : String) (given : Value) :
    registry.comparison? name given = none := by
  unfold Registry.comparison? Registry.validator?
  cases hget : Entries.get? registry.components name with
  | none => rfl
  | some schemas =>
      have hschemas := hnumeric _ (Entries.mem_of_get?_eq_some hget)
      cases given with
      | record props =>
          exact (Schema.properties_checksInRow _).eq_none fun property hmem =>
            Schema.properties_comparable_of_numeric schemas hschemas property
              hmem _
      | _ => rfl

theorem nodeComparison?_eq_none (node : Node) :
    nodeComparison? registry node = none := by
  cases node with
  | element tag props children => exact registryComparison?_eq_none hnumeric _ _
  | conditional condition children => rfl
  | loop item source children => rfl

theorem interrupted_eq (nodes : List Node) :
    interrupted registry nodes = (nodes, none) := by
  induction nodes with
  | nil => rfl
  | cons node rest ih =>
      simp only [interrupted, nodeComparison?_eq_none hnumeric, ih]

end Numeric

end Check

namespace Compiler

/-- The bounds of all schemas that are registered or declared are numbers. -/
def hasNumericBounds (compiler : Compiler) : Bool :=
  compiler.registry.components.all
      (fun entry => Schema.propertiesHaveNumericBounds entry.2) &&
    compiler.declared.all
      (fun entry => Schema.propertiesHaveNumericBounds entry.2)

theorem hasNumericBounds_iff {compiler : Compiler} :
    compiler.hasNumericBounds = true ↔
      (∀ entry ∈ compiler.registry.components,
          Schema.propertiesHaveNumericBounds entry.2 = true) ∧
        ∀ entry ∈ compiler.declared,
          Schema.propertiesHaveNumericBounds entry.2 = true := by
  simp only [hasNumericBounds, Bool.and_eq_true, List.all_eq_true]

private theorem schemasFor_haveNumericBounds {compiler : Compiler}
    (hnumeric : compiler.hasNumericBounds = true) (definition : Definition) :
    Schema.propertiesHaveNumericBounds (compiler.schemasFor definition) =
      true := by
  unfold schemasFor
  cases hdeclared : compiler.declaredFor definition with
  | none => exact Schema.inferredSchemas_haveNumericBounds definition
  | some schemas =>
      rw [declaredFor, Option.filter_eq_some_iff] at hdeclared
      have hmem := Entries.mem_of_get?_eq_some hdeclared.1
      exact (hasNumericBounds_iff.mp hnumeric).2 _ hmem

private theorem define_hasNumericBounds {compiler : Compiler}
    (hnumeric : compiler.hasNumericBounds = true) (definition : Definition) :
    (compiler.define definition).hasNumericBounds = true := by
  have hschemas := schemasFor_haveNumericBounds hnumeric definition
  rw [hasNumericBounds_iff] at hnumeric ⊢
  refine ⟨?_, hnumeric.2⟩
  intro entry hentry
  rcases Entries.mem_set hentry with rfl | hold
  · exact hschemas
  · exact hnumeric.1 entry hold

private theorem defineAll_hasNumericBounds {compiler : Compiler}
    (hnumeric : compiler.hasNumericBounds = true)
    (definitions : List Definition) :
    (compiler.defineAll definitions).hasNumericBounds = true := by
  induction definitions generalizing compiler with
  | nil => exact hnumeric
  | cons definition rest ih =>
      exact ih (define_hasNumericBounds hnumeric definition)

/-- The comparison that interrupts a compiler, unless a failure stops it
first. -/
def interruptingComparison? (compiler : Compiler) (program : Program) :
    Option Comparison :=
  (Check.interrupted (compiler.defineAll program.definitions).registry
    program.nodes).2

theorem interruptingComparison?_eq_none {compiler : Compiler}
    (hnumeric : compiler.hasNumericBounds = true) (program : Program) :
    compiler.interruptingComparison? program = none := by
  have hdefined := hasNumericBounds_iff.mp
    (defineAll_hasNumericBounds hnumeric program.definitions)
  rw [interruptingComparison?, Check.interrupted_eq hdefined.1]

theorem interruption?_eq_none {compiler : Compiler} {program : Program}
    (hnone : compiler.interruptingComparison? program = none) :
    compiler.interruption? program = none := by
  rw [interruptingComparison?] at hnone
  cases hfound : Check.interrupted
      (compiler.defineAll program.definitions).registry program.nodes with
  | mk before comparison =>
      rw [hfound] at hnone
      dsimp only at hnone
      subst hnone
      simp only [interruption?, hfound]

/-- A compiler that gets to an interrupting comparison is interrupted by it; a
strict one may have met a failure before. -/
theorem interruption?_cases {compiler : Compiler} {program : Program}
    {comparison : Comparison}
    (hsome : compiler.interruptingComparison? program = some comparison) :
    (∃ interruption, compiler.interruption? program = some interruption ∧
        interruption.comparison = comparison) ∨
      compiler.interruption? program = none ∧
        compiler.settings.strict = true ∧
        ∃ error, Check.firstError
          (Check.all (compiler.defineAll program.definitions).registry
            program) = some error := by
  rw [interruptingComparison?] at hsome
  have hstops := @Check.firstError_of_interrupted
    (compiler.defineAll program.definitions).registry program
  cases hfound : Check.interrupted
      (compiler.defineAll program.definitions).registry program.nodes with
  | mk before found =>
      rw [hfound] at hsome hstops
      dsimp only at hsome hstops
      subst hsome
      simp only [interruption?, hfound]
      cases herror : Check.firstError (before.filterMap
          (Check.ofNode (compiler.defineAll program.definitions).registry)) with
      | none => exact Or.inl (by simp)
      | some error =>
          cases compiler.settings.strict with
          | false => exact Or.inl (by simp)
          | true => exact Or.inr ⟨by simp, rfl, error, hstops herror⟩

/-! ## Compilers that differ in strictness -/

structure DifferInStrictness (lenient strict : Compiler) : Prop where
  lenient_settings : lenient.settings.strict = false
  strict_settings : strict.settings = { lenient.settings with strict := true }
  declared_eq : strict.declared = lenient.declared
  registry_eq : strict.registry = lenient.registry

namespace DifferInStrictness

variable {lenient strict : Compiler}

theorem define (hdiffer : DifferInStrictness lenient strict)
    (definition : Definition) :
    DifferInStrictness (lenient.define definition)
      (strict.define definition) := by
  have hschemas : strict.schemasFor definition =
      lenient.schemasFor definition := by
    simp only [schemasFor, declaredFor, hdiffer.declared_eq]
  refine ⟨hdiffer.lenient_settings, hdiffer.strict_settings,
    hdiffer.declared_eq, ?_⟩
  simp only [Compiler.define, hdiffer.registry_eq, hschemas]

theorem defineAll (hdiffer : DifferInStrictness lenient strict)
    (definitions : List Definition) :
    DifferInStrictness (lenient.defineAll definitions)
      (strict.defineAll definitions) := by
  induction definitions generalizing lenient strict with
  | nil => exact hdiffer
  | cons definition rest ih => exact ih (hdiffer.define definition)

theorem result_eq (hdiffer : DifferInStrictness lenient strict)
    (program : Program) (checks : List Check) :
    strict.result program checks = lenient.result program checks := by
  simp only [result, generator, hdiffer.strict_settings, hdiffer.registry_eq]

theorem interruptingComparison?_eq (hdiffer : DifferInStrictness lenient strict)
    (program : Program) :
    strict.interruptingComparison? program =
      lenient.interruptingComparison? program := by
  have hdefined := hdiffer.defineAll program.definitions
  rw [interruptingComparison?, hdefined.registry_eq, interruptingComparison?]

end DifferInStrictness

section Agreement

variable {lenient strict : Compiler} {source : Source} {program : Program}
  {log : Log} (hdiffer : DifferInStrictness lenient strict)
  (hload : source.load = .ok (program, log))

include hdiffer hload

/-- Without an interruption the lenient compiler gives a result, and its
failures decide what the strict one does. -/
theorem answers_of_uninterrupted
    (hnone : lenient.interruptingComparison? program = none) :
    ∃ result, lenient.answer source = .ok result ∧
      (result.failures = [] → strict.answer source = .ok result) ∧
      ∀ failure later, result.failures = failure :: later →
        ∃ tag, strict.answer source = .error (.failed ⟨tag, failure⟩) ∧
          Check.FirstFailing (lenient.defineAll program.definitions).registry
            program.nodes tag failure := by
  have hdefined := hdiffer.defineAll program.definitions
  have hstrict : strict.settings.strict = true := by
    rw [hdiffer.strict_settings]
  have hstrictNone : strict.interruptingComparison? program = none := by
    rw [hdiffer.interruptingComparison?_eq, hnone]
  have hlenientAnswer := answer_of_load hload (interruption?_eq_none hnone)
  have hstrictAnswer := answer_of_load hload
    (interruption?_eq_none hstrictNone)
  rw [outcome_of_lenient hdiffer.lenient_settings] at hlenientAnswer
  refine ⟨_, hlenientAnswer, ?_, ?_⟩
  · intro hfailures
    have hpasses := Check.firstError_eq_none hfailures
    rw [← hdefined.registry_eq] at hpasses
    rw [hstrictAnswer, outcome_of_no_error hstrict hpasses,
      hdefined.result_eq, hdefined.registry_eq,
      Check.untilFailure_eq_self hfailures]
    rfl
  · intro failure later hfailures
    obtain ⟨tag, herror⟩ := Check.firstError_eq_some hfailures
    refine ⟨tag, ?_, Check.firstFailing_of_firstError herror⟩
    rw [← hdefined.registry_eq] at herror
    rw [hstrictAnswer, outcome_of_firstError hstrict herror]
    rfl

private theorem answers_of_interrupted {comparison : Comparison}
    (hsome : lenient.interruptingComparison? program = some comparison) :
    lenient.answer source = .error (.interrupted comparison) ∧
      (strict.answer source = .error (.interrupted comparison) ∨
        ∃ error, strict.answer source = .error (.failed error)) := by
  constructor
  · rcases interruption?_cases hsome with
      ⟨interruption, hinterruption, rfl⟩ | ⟨_, hstrict, _⟩
    · exact answer_of_interruption hload hinterruption
    · rw [hdiffer.lenient_settings] at hstrict
      contradiction
  · rw [← hdiffer.interruptingComparison?_eq] at hsome
    rcases interruption?_cases hsome with
      ⟨interruption, hinterruption, rfl⟩ | ⟨hnone, hstrict, error, herror⟩
    · exact Or.inl (answer_of_interruption hload hinterruption)
    · refine Or.inr ⟨error, ?_⟩
      rw [answer_of_load hload hnone, outcome_of_firstError hstrict herror]
      rfl

end Agreement

/-- A lenient compiler and a strict one that differ in nothing else agree.  On
a source that cannot be loaded both stop with the same error.  On any other
source the lenient one gives a result; the strict one gives the same result if
that has no failures, and otherwise stops at the first element that fails, with
the first failure of the result.  The only exception are schemas with a bound
that is no number: there an element may interrupt the lenient one, and then the
strict one too, unless it has stopped at a failure before. -/
theorem strict_answer_refines_lenient {lenient strict : Compiler}
    (hdiffer : DifferInStrictness lenient strict) (source : Source) :
    (∃ error, lenient.answer source = .error (.unloadable error) ∧
        strict.answer source = .error (.unloadable error)) ∨
      (∃ program log result, source.load = .ok (program, log) ∧
        lenient.answer source = .ok result ∧
        (result.failures = [] → strict.answer source = .ok result) ∧
        ∀ failure later, result.failures = failure :: later →
          ∃ tag, strict.answer source = .error (.failed ⟨tag, failure⟩) ∧
            Check.FirstFailing
              (lenient.defineAll program.definitions).registry program.nodes
              tag failure) ∨
      lenient.hasNumericBounds = false ∧
        ∃ comparison,
          lenient.answer source = .error (.interrupted comparison) ∧
            (strict.answer source = .error (.interrupted comparison) ∨
              ∃ error, strict.answer source = .error (.failed error)) := by
  cases hload : source.load with
  | error error =>
      exact Or.inl
        ⟨error, answer_of_load_error hload, answer_of_load_error hload⟩
  | ok loaded =>
      obtain ⟨program, log⟩ := loaded
      right
      cases hcomparison : lenient.interruptingComparison? program with
      | none =>
          obtain ⟨result, hanswers⟩ :=
            answers_of_uninterrupted hdiffer hload hcomparison
          exact Or.inl ⟨program, log, result, rfl, hanswers⟩
      | some comparison =>
          have hbounds : lenient.hasNumericBounds = false := by
            rw [Bool.eq_false_iff]
            intro hnumeric
            rw [interruptingComparison?_eq_none hnumeric] at hcomparison
            contradiction
          exact Or.inr ⟨hbounds, comparison,
            answers_of_interrupted hdiffer hload hcomparison⟩

/-- The component that a strict compiler refuses. -/
def refused? : Except Stop CompilationResult → Option String
  | .error (.failed error) => some error.component
  | _ => none

/-- A page of built-in components whose title has no text and whose button does
nothing. -/
def unfinishedPage : Source :=
  .data (.array
    [.object [("type", .text "Text"),
      ("props", .object [("text", .text "Welcome"), ("wide", .bool true)])],
      .object [("type", .text "Row"), ("children", .array
        [.object [("type", .text "Title")],
          .object [("type", .text "Button"),
            ("props", .object [("text", .text "Go")])]])]])

theorem strict_answer_stops_at_title :
    let lenient : Compiler := { settings := {}, registry := Builtin.registry }
    let strict : Compiler :=
      { settings := { strict := true }, registry := Builtin.registry }
    DifferInStrictness lenient strict ∧ lenient.hasNumericBounds = true ∧
      ∃ result first second, lenient.answer unfinishedPage = .ok result ∧
        result.failures = [first, second] ∧
        strict.answer unfinishedPage = .error (.failed ⟨"Title", first⟩) := by
  intro lenient strict
  have hdiffer : DifferInStrictness lenient strict := ⟨rfl, rfl, rfl, rfl⟩
  have hnumeric : lenient.hasNumericBounds = true := by decide +kernel
  have hcount : (lenient.answer unfinishedPage).toOption.map
      (fun result => result.failures.length) = some 2 := by
    decide +kernel
  have htag : refused? (strict.answer unfinishedPage) = some "Title" := by
    decide +kernel
  refine ⟨hdiffer, hnumeric, ?_⟩
  rcases strict_answer_refines_lenient hdiffer unfinishedPage with
    ⟨error, hlenient, _⟩ | ⟨program, log, result, _, hlenient, _, hstops⟩ |
      ⟨hbounds, _⟩
  · rw [hlenient] at hcount
    contradiction
  · rw [hlenient] at hcount
    obtain ⟨first, second, hfailures⟩ :=
      List.length_eq_two.mp (Option.some.inj hcount)
    obtain ⟨tag, hstrict, _⟩ := hstops first [second] hfailures
    rw [hstrict] at htag
    obtain rfl : tag = "Title" := Option.some.inj htag
    exact ⟨result, first, second, hlenient, hfailures, hstrict⟩
  · rw [hnumeric] at hbounds
    contradiction

end Compiler
end ViewCompiler
