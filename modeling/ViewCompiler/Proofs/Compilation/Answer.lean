import ViewCompiler.Compilation.Source

/-!
# The answer to a source

A source that cannot be loaded is answered by the error of loading it, whatever
the compiler.  Any other answer is that of compiling the program of the source,
and a result is the result for the components of the program and the checks
that were made.
-/

namespace ViewCompiler
namespace Compiler

variable {compiler : Compiler} {source : Source} {program : Program} {log : Log}

theorem answer_of_load_error {error : LoadError}
    (hload : source.load = .error error) :
    compiler.answer source = .error (.unloadable error) := by
  have hattempt : compiler.attemptSource source = .error error := by
    rw [attemptSource, hload]
    rfl
  rw [answer, hattempt]

theorem attemptSource_of_load (hload : source.load = .ok (program, log)) :
    compiler.attemptSource source = .ok (log, compiler.attempt program) := by
  rw [attemptSource, hload]
  rfl

theorem answer_of_load (hload : source.load = .ok (program, log))
    (hinterruption : compiler.interruption? program = none) :
    compiler.answer source =
      (compiler.compile program).outcome.mapError .failed := by
  have hattempt : compiler.attempt program = .ok (compiler.compile program) := by
    rw [attempt, hinterruption]
  rw [answer, attemptSource_of_load hload, hattempt]

theorem answer_of_interruption {interruption : Interruption}
    (hload : source.load = .ok (program, log))
    (hinterruption : compiler.interruption? program = some interruption) :
    compiler.answer source =
      .error (.interrupted interruption.comparison) := by
  rw [answer, attemptSource_of_load hload, attempt, hinterruption]

theorem exists_load_of_answer_eq_ok {result : CompilationResult}
    (hanswer : compiler.answer source = .ok result) :
    ∃ program log, source.load = .ok (program, log) ∧
      (compiler.compile program).outcome = .ok result := by
  cases hload : source.load with
  | error error =>
      rw [answer_of_load_error hload] at hanswer
      contradiction
  | ok loaded =>
      obtain ⟨program, log⟩ := loaded
      refine ⟨program, log, rfl, ?_⟩
      cases hinterruption : compiler.interruption? program with
      | some interruption =>
          rw [answer_of_interruption hload hinterruption] at hanswer
          contradiction
      | none =>
          rw [answer_of_load hload hinterruption] at hanswer
          cases houtcome : (compiler.compile program).outcome with
          | error error =>
              rw [houtcome] at hanswer
              contradiction
          | ok found =>
              rw [houtcome] at hanswer
              exact congrArg Except.ok (Except.ok.inj hanswer)

/-! ## The outcome of compiling a program -/

theorem firstError_untilFailure (checks : List Check) :
    Check.firstError (Check.untilFailure checks) = Check.firstError checks := by
  induction checks with
  | nil => rfl
  | cons check rest ih =>
      cases hfailure : check.failure? with
      | none => simp [Check.untilFailure, Check.firstError, hfailure, ih]
      | some failure => simp [Check.untilFailure, Check.firstError, hfailure]

theorem outcome_of_lenient (hlenient : compiler.settings.strict = false) :
    let defined := compiler.defineAll program.definitions
    (compiler.compile program).outcome =
      .ok (defined.result program (Check.all defined.registry program)) := by
  simp [compile, Check.performed, hlenient]

section Strict

variable (hstrict : compiler.settings.strict = true)

include hstrict

theorem outcome_of_firstError {error : CompilationError}
    (herror : Check.firstError
      (Check.all (compiler.defineAll program.definitions).registry program) =
        some error) :
    (compiler.compile program).outcome = .error error := by
  simp [compile, Check.performed, hstrict, firstError_untilFailure, herror]

theorem outcome_of_no_error
    (hnone : Check.firstError
      (Check.all (compiler.defineAll program.definitions).registry program) =
        none) :
    let defined := compiler.defineAll program.definitions
    (compiler.compile program).outcome =
      .ok (defined.result program
        (Check.untilFailure (Check.all defined.registry program))) := by
  simp [compile, Check.performed, hstrict, firstError_untilFailure, hnone]

end Strict

theorem exists_checks_of_outcome_eq_ok {result : CompilationResult}
    (houtcome : (compiler.compile program).outcome = .ok result) :
    ∃ checks,
      result =
        (compiler.defineAll program.definitions).result program checks := by
  cases hstrict : compiler.settings.strict with
  | false =>
      rw [outcome_of_lenient hstrict] at houtcome
      exact ⟨_, (Except.ok.inj houtcome).symm⟩
  | true =>
      cases herror : Check.firstError
          (Check.all (compiler.defineAll program.definitions).registry
            program) with
      | some error =>
          rw [outcome_of_firstError hstrict herror] at houtcome
          contradiction
      | none =>
          rw [outcome_of_no_error hstrict herror] at houtcome
          exact ⟨_, (Except.ok.inj houtcome).symm⟩

theorem defineAll_settings (compiler : Compiler)
    (definitions : List Definition) :
    (compiler.defineAll definitions).settings = compiler.settings := by
  induction definitions generalizing compiler with
  | nil => rfl
  | cons definition rest ih => exact ih (compiler.define definition)

end Compiler
end ViewCompiler
