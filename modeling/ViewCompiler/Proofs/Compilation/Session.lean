import ViewCompiler.Compilation.Session
import ViewCompiler.Proofs.Compilation.Strictness
import ViewCompiler.Proofs.Hook

/-!
# Compilations that hooks watch

A session lets hooks run in the middle of a compilation, and they change the
hooks that run later.  Seen from the end, they have only watched: the session
gives what the compiler alone would give, leaves the compiler that would be left
without hooks, and has its hooks, calls and records from the list of events of
that compilation.  There is one exception: a hook that raises what is not caught
cuts the compilation off.
-/

namespace ViewCompiler

namespace Hooks

section Append

variable {hooks : Hooks} {first : List Event}

/-- Events that are not cut off go on with those behind them. -/
theorem observe_append_of_quiet
    (hquiet : (hooks.observe first).ended = none) (second : List Event) :
    hooks.observe (first ++ second) =
      { hooks := ((hooks.observe first).hooks.observe second).hooks
        calls := (hooks.observe first).calls ++
          ((hooks.observe first).hooks.observe second).calls
        log := (hooks.observe first).log ++
          ((hooks.observe first).hooks.observe second).log
        ended := ((hooks.observe first).hooks.observe second).ended } := by
  induction first generalizing hooks with
  | nil => rfl
  | cons event rest ih =>
      cases event with
      | logged record => simp [observe, ih hquiet]
      | reached point payload =>
          cases hended : (hooks.execute point payload).ended with
          | some raised => simp [observe, hended] at hquiet
          | none =>
              simp only [observe, hended, Option.isSome_none,
                Bool.false_eq_true, if_false] at hquiet
              simp [observe, hended, ih hquiet]

/-- Events behind those that are cut off are not seen. -/
theorem observe_append_of_ended {raised : Raised}
    (hended : (hooks.observe first).ended = some raised)
    (second : List Event) :
    hooks.observe (first ++ second) = hooks.observe first := by
  induction first generalizing hooks with
  | nil => contradiction
  | cons event rest ih =>
      cases event with
      | logged record => simp [observe, ih hended]
      | reached point payload =>
          cases hpoint : (hooks.execute point payload).ended with
          | some raised => simp [observe, hpoint]
          | none =>
              simp only [observe, hpoint, Option.isSome_none,
                Bool.false_eq_true, if_false] at hended
              simp [observe, hpoint, ih hended]

end Append

theorem functions_observe (hooks : Hooks) (events : List Event) :
    (hooks.observe events).hooks.functions = hooks.functions := by
  induction events generalizing hooks with
  | nil => rfl
  | cons event rest ih =>
      cases event with
      | logged record => exact ih hooks
      | reached point payload =>
          have hfunctions := functions_execute hooks point payload
          cases hpoint : (hooks.execute point payload).ended with
          | some raised => simpa [observe, hpoint] using hfunctions
          | none =>
              simpa [observe, hpoint] using
                (ih (hooks.execute point payload).hooks).trans hfunctions

theorem exists_escape_of_observe {hooks : Hooks} {events : List Event}
    {raised : Raised}
    (hended : (hooks.observe events).ended = some raised) :
    ∃ name payload,
      ((hooks.functions name).action.conduct payload).escaped? =
        some raised := by
  induction events generalizing hooks with
  | nil => contradiction
  | cons event rest ih =>
      cases event with
      | logged record => exact ih hended
      | reached point payload =>
          cases hpoint : (hooks.execute point payload).ended with
          | some other =>
              have hother : other = raised := by
                simpa [observe, hpoint] using hended
              rw [hother] at hpoint
              exact exists_escape_of_execute hpoint
          | none =>
              simp only [observe, hpoint, Option.isSome_none,
                Bool.false_eq_true, if_false] at hended
              rw [← functions_execute hooks point payload]
              exact ih hended

theorem observe_ofLog (hooks : Hooks) (log : Log) :
    hooks.observe (Event.ofLog log) = { hooks, log } := by
  unfold Event.ofLog
  induction log with
  | nil => rfl
  | cons record rest ih => simp [observe, ih]

end Hooks

namespace Check

/-- The failure by which a check stops a compiler of the given strictness. -/
def fatal? (strict : Bool) (check : Check) : Option Failure :=
  if strict then check.failure? else none

theorem fatal?_eq_some_iff {strict : Bool} {check : Check}
    {failure : Failure} :
    check.fatal? strict = some failure ↔
      strict = true ∧ check.failure? = some failure := by
  cases strict <;> simp [fatal?]

/-- How a list of checks ends: with the first failure if that stops the
compiler, else with the comparison that comes after them, else with all
checks. -/
def conclusion (strict : Bool) (checks : List Check)
    (comparison : Option Comparison) : Except Stop (List Check) :=
  match if strict then firstError checks else none, comparison with
  | some error, _ => .error (.failed error)
  | none, some comparison => .error (.interrupted comparison)
  | none, none => .ok checks

theorem performed_nil (strict : Bool) : performed strict [] = [] := by
  cases strict <;> rfl

theorem conclusion_nil (strict : Bool) :
    conclusion strict [] none = .ok [] := by
  cases strict <;> rfl

theorem conclusion_nil_some (strict : Bool) (comparison : Comparison) :
    conclusion strict [] (some comparison) =
      .error (.interrupted comparison) := by
  cases strict <;> rfl

section Conclusion

variable {strict : Bool} {check : Check} {checks : List Check}
  {comparison : Option Comparison}

theorem conclusion_cons_of_passing (hpasses : check.fatal? strict = none) :
    conclusion strict (check :: checks) comparison =
      (conclusion strict checks comparison).map (check :: ·) := by
  have hfirst : (if strict then firstError (check :: checks) else none) =
      if strict then firstError checks else none := by
    cases strict with
    | false => rfl
    | true =>
        have hfailure : check.failure? = none := hpasses
        simp [firstError, hfailure]
  unfold conclusion
  rw [hfirst]
  cases (if strict then firstError checks else none) with
  | some error => rfl
  | none =>
      cases comparison with
      | some comparison => rfl
      | none => rfl

theorem performed_cons_of_passing (hpasses : check.fatal? strict = none) :
    performed strict (check :: checks) = check :: performed strict checks := by
  cases strict with
  | false => rfl
  | true =>
      have hfailure : check.failure? = none := hpasses
      simp [performed, untilFailure, hfailure]

theorem conclusion_cons_of_fatal {failure : Failure}
    (hfatal : check.fatal? strict = some failure) :
    conclusion strict (check :: checks) comparison =
      .error (.failed ⟨check.component, failure⟩) := by
  obtain ⟨rfl, hfailure⟩ := fatal?_eq_some_iff.mp hfatal
  simp [conclusion, firstError, hfailure]

theorem performed_cons_of_fatal {failure : Failure}
    (hfatal : check.fatal? strict = some failure) :
    performed strict (check :: checks) = [check] := by
  obtain ⟨rfl, hfailure⟩ := fatal?_eq_some_iff.mp hfatal
  simp [performed, untilFailure, hfailure]

end Conclusion

private theorem has_of_comparison? {registry : Registry} {component : String}
    {props : Props} {comparison : Comparison}
    (hcomparison : comparison? registry component props = some comparison) :
    registry.has component = true := by
  unfold comparison? Registry.comparison? Registry.validator? at hcomparison
  unfold Registry.has Entries.has
  cases hget : Entries.get? registry.components component with
  | none =>
      rw [hget] at hcomparison
      contradiction
  | some schemas => rfl

theorem eq_run_of_ofNode {registry : Registry} {node : Node} {check : Check}
    (hcheck : ofNode registry node = some check) :
    ∃ tag props children, node = .element tag props children ∧
      registry.has tag = true ∧ check = run registry tag props := by
  cases node with
  | element tag props children =>
      by_cases hhas : registry.has tag = true
      · rw [ofNode, if_pos hhas, Option.some.injEq] at hcheck
        exact ⟨tag, props, children, rfl, hhas, hcheck.symm⟩
      · rw [ofNode, if_neg hhas] at hcheck
        contradiction
  | conditional condition children => contradiction
  | loop item source children => contradiction

end Check

namespace Session

/-- The session after its hooks have watched events. -/
def watch (session : Session) (events : List Event) : Session :=
  let seen := session.hooks.observe events
  { session with
    hooks := seen.hooks
    calls := session.calls ++ seen.calls
    log := session.log ++ seen.log }

@[simp] theorem watch_compiler (session : Session) (events : List Event) :
    (session.watch events).compiler = session.compiler := rfl

theorem watch_nil (session : Session) : session.watch [] = session := by
  simp [watch, Hooks.observe]

theorem watch_append_of_quiet (session : Session) {first : List Event}
    (hquiet : (session.hooks.observe first).ended = none)
    (second : List Event) :
    session.watch (first ++ second) = (session.watch first).watch second := by
  simp [watch, Hooks.observe_append_of_quiet hquiet]

theorem watch_append_of_ended (session : Session) {first : List Event}
    {raised : Raised}
    (hended : (session.hooks.observe first).ended = some raised)
    (second : List Event) :
    session.watch (first ++ second) = session.watch first := by
  simp only [watch, Hooks.observe_append_of_ended hended]

/-- The session at another state of its compiler. -/
def withCompiler (session : Session) (compiler : Compiler) : Session :=
  { session with compiler }

@[simp] theorem withCompiler_compiler (session : Session)
    (compiler : Compiler) :
    (session.withCompiler compiler).compiler = compiler := rfl

/-! ## Running stages -/

variable {α β : Type} {session after : Session}

theorem run_bind_of_ok {stage : Stage α} {next : α → Stage β} {value : α}
    (hstage : session.run stage = (.ok value, after)) :
    session.run (stage >>= next) = after.run (next value) := by
  unfold run at hstage ⊢
  rw [ExceptT.run_bind, StateT.run_bind, hstage]
  rfl

theorem run_bind_of_error {stage : Stage α} {next : α → Stage β} {stop : Stop}
    (hstage : session.run stage = (.error stop, after)) :
    session.run (stage >>= next) = (.error stop, after) := by
  unfold run at hstage ⊢
  rw [ExceptT.run_bind, StateT.run_bind, hstage]
  rfl

theorem run_compiler :
    session.run .compiler = (.ok session.compiler, session) := rfl

/-- What a run ends with if its events, its outcome and the compiler that it
leaves are given: just that, and the hooks of the session have watched it, unless
one of them cuts the events off. -/
def Ends (session : Session) (events : List Event) (outcome : Except Stop α)
    (after : Compiler) (ended : Except Stop α × Session) : Prop :=
  ((session.hooks.observe events).ended = none ∧
      ended = (outcome, (session.withCompiler after).watch events)) ∨
    ∃ raised reached, (session.hooks.observe events).ended = some raised ∧
      ended = (.error (.ended raised),
        (session.withCompiler reached).watch events)

/-- A run without events, which nobody can cut off. -/
theorem ends_nil {outcome : Except Stop α} {ended : Except Stop α × Session}
    (hended : ended = (outcome, session)) :
    session.Ends [] outcome session.compiler ended := by
  refine Or.inl ⟨rfl, ?_⟩
  rw [hended, watch_nil]
  rfl

private theorem ends_record (log : Log) :
    session.Ends (Event.ofLog log) (.ok ()) session.compiler
      (session.run (.record log)) := by
  refine Or.inl ⟨?_, ?_⟩
  · rw [Hooks.observe_ofLog]
  · simp only [watch, Hooks.observe_ofLog, List.append_nil]
    rfl

theorem watch_reached (point : HookPoint) (payload : Payload) :
    session.watch [.reached point payload] =
      { session with
        hooks := (session.hooks.execute point payload).hooks
        calls := session.calls ++ (session.hooks.execute point payload).calls
        log := session.log ++ (session.hooks.execute point payload).log } := by
  unfold watch
  cases hended : (session.hooks.execute point payload).ended with
  | none => simp [Hooks.observe, hended]
  | some raised => simp [Hooks.observe, hended]

private theorem ends_reach (point : HookPoint) (payload : Payload) :
    session.Ends [.reached point payload] (.ok ()) session.compiler
      (session.run (.reach point payload)) := by
  have hget : session.run (get : Stage Session) = (.ok session, session) := rfl
  have hsame (events : List Event) :
      (session.withCompiler session.compiler).watch events =
        session.watch events := rfl
  unfold Stage.reach
  rw [run_bind_of_ok hget]
  cases hended : (session.hooks.execute point payload).ended with
  | none =>
      refine Or.inl ⟨by simp [Hooks.observe, hended], ?_⟩
      rw [hsame, watch_reached]
      simp only [hended]
      rfl
  | some raised =>
      refine Or.inr
        ⟨raised, session.compiler, by simp [Hooks.observe, hended], ?_⟩
      rw [hsame, watch_reached]
      simp only [hended]
      rfl

private theorem ends_become (compiler : Compiler) :
    session.Ends [] (.ok ()) compiler
      (session.run (modify fun session => { session with compiler })) := by
  refine Or.inl ⟨rfl, ?_⟩
  rw [watch_nil]
  rfl

namespace Ends

variable {first second : List Event} {middle last : Compiler}

/-- One stage after the other.  What is cut off in the first of them is not
continued. -/
theorem bind {stage : Stage α} {next : α → Stage β} {value : α}
    {outcome : Except Stop β}
    (hstage : session.Ends first (.ok value) middle (session.run stage))
    (hnext : ((session.withCompiler middle).watch first).Ends second outcome
      last (((session.withCompiler middle).watch first).run (next value))) :
    session.Ends (first ++ second) outcome last
      (session.run (stage >>= next)) := by
  obtain ⟨hquiet, hrun⟩ | ⟨raised, reached, hended, hrun⟩ := hstage
  · have hobserved : (session.hooks.observe (first ++ second)).ended =
        (((session.withCompiler middle).watch first).hooks.observe
          second).ended := by
      rw [Hooks.observe_append_of_quiet hquiet]
      rfl
    have hwatched (compiler : Compiler) :
        (((session.withCompiler middle).watch first).withCompiler
            compiler).watch second =
          (session.withCompiler compiler).watch (first ++ second) := by
      rw [watch_append_of_quiet (session.withCompiler compiler) hquiet]
      rfl
    unfold Ends
    rw [run_bind_of_ok hrun, hobserved]
    simpa only [Ends, hwatched] using hnext
  · refine Or.inr ⟨raised, reached, ?_, ?_⟩
    · rw [Hooks.observe_append_of_ended hended, hended]
    · rw [run_bind_of_error hrun,
        watch_append_of_ended (session.withCompiler reached) hended]

theorem bind_error {stage : Stage α} {next : α → Stage β} {stop : Stop}
    (hstage : session.Ends first (.error stop) middle (session.run stage)) :
    session.Ends first (.error stop) middle
      (session.run (stage >>= next)) := by
  obtain ⟨hquiet, hrun⟩ | ⟨raised, reached, hended, hrun⟩ := hstage
  · exact Or.inl ⟨hquiet, run_bind_of_error hrun⟩
  · exact Or.inr ⟨raised, reached, hended, run_bind_of_error hrun⟩

theorem map {stage : Stage α} {outcome : Except Stop α} (f : α → β)
    (hstage : session.Ends first outcome middle (session.run stage)) :
    session.Ends first (outcome.map f) middle
      (session.run (stage >>= fun value => pure (f value))) := by
  cases outcome with
  | error stop => exact hstage.bind_error
  | ok value =>
      rw [← List.append_nil first]
      exact hstage.bind (ends_nil rfl)

end Ends

/-! ## Registering components -/

private theorem ends_define (definition : Definition) :
    session.Ends
      (Event.ofLog (session.compiler.defineLog definition) ++
        [.reached .onComponent
          (session.compiler.definitionPayload definition)])
      (.ok ()) (session.compiler.define definition)
      (session.run (.define definition)) := by
  unfold Stage.define
  rw [run_bind_of_ok run_compiler]
  refine (ends_record _).bind ((ends_become _).bind ?_)
  exact ends_reach .onComponent (session.compiler.definitionPayload definition)

private theorem ends_defineAll (definitions : List Definition) :
    session.Ends (session.compiler.defineEvents definitions) (.ok ())
      (session.compiler.defineAll definitions)
      (session.run (.defineAll definitions)) := by
  induction definitions generalizing session with
  | nil => exact ends_nil rfl
  | cons definition rest ih =>
      have hevents : session.compiler.defineEvents (definition :: rest) =
          (Event.ofLog (session.compiler.defineLog definition) ++
            [.reached .onComponent
              (session.compiler.definitionPayload definition)]) ++
            (session.compiler.define definition).defineEvents rest := by
        simp [Compiler.defineEvents]
      rw [hevents]
      exact (ends_define definition).bind ih

/-! ## Checking nodes -/

section Props

variable {component : String} {props : Props}

private theorem run_checkProps_of_comparison {comparison : Comparison}
    (hcomparison : Check.comparison? session.compiler.registry component props =
      some comparison) :
    session.run (.checkProps component props) =
      (.error (.interrupted comparison), session) := by
  unfold Stage.checkProps
  rw [run_bind_of_ok run_compiler]
  simp only [hcomparison]
  rfl

private theorem ends_refuse_of_strict (session : Session)
    (hstrict : session.compiler.settings.strict = true) (failure : Failure) :
    session.Ends
      [.reached .onValidationError (Check.failurePayload component failure)]
      (.error (.failed ⟨component, failure⟩)) session.compiler
      (session.run (.refuse component failure)) := by
  unfold Stage.refuse
  refine (ends_reach _ _).bind ?_
  rw [run_bind_of_ok run_compiler, watch_compiler, withCompiler_compiler,
    if_pos hstrict]
  exact ends_nil rfl

private theorem ends_refuse_of_lenient (session : Session)
    (hlenient : session.compiler.settings.strict = false) (failure : Failure) :
    session.Ends
      (.reached .onValidationError (Check.failurePayload component failure) ::
        Event.ofLog (Check.toleratedLog component failure))
      (.ok ()) session.compiler
      (session.run (.refuse component failure)) := by
  unfold Stage.refuse
  refine (ends_reach _ _).bind ?_
  rw [run_bind_of_ok run_compiler, watch_compiler, withCompiler_compiler,
    if_neg (by simp [hlenient])]
  exact ends_record _

variable (hcomparable :
  Check.comparison? session.compiler.registry component props = none)

include hcomparable

private theorem ends_checkProps_of_passing
    (hpasses : (Check.run session.compiler.registry component props).fatal?
      session.compiler.settings.strict = none) :
    session.Ends
      ((Check.run session.compiler.registry component props).events
        session.compiler.settings.strict)
      (.ok (Check.run session.compiler.registry component props))
      session.compiler (session.run (.checkProps component props)) := by
  unfold Stage.checkProps
  rw [run_bind_of_ok run_compiler]
  simp only [hcomparable]
  cases hfailure :
      (Check.run session.compiler.registry component props).failure? with
  | none =>
      simp only [Check.events, hfailure]
      exact (ends_record _).bind (ends_nil rfl)
  | some failure =>
      have hlenient : session.compiler.settings.strict = false := by
        rw [Check.fatal?, hfailure] at hpasses
        simpa using hpasses
      simp only [Check.events, hfailure, hlenient]
      refine (ends_record _).bind ?_
      exact (ends_refuse_of_lenient (session.watch _) hlenient failure).map
        fun _ => Check.run session.compiler.registry component props

private theorem ends_checkProps_of_fatal {failure : Failure}
    (hfatal : (Check.run session.compiler.registry component props).fatal?
      session.compiler.settings.strict = some failure) :
    session.Ends
      ((Check.run session.compiler.registry component props).events
        session.compiler.settings.strict)
      (.error (.failed ⟨component, failure⟩)) session.compiler
      (session.run (.checkProps component props)) := by
  obtain ⟨hstrict, hfailure⟩ := Check.fatal?_eq_some_iff.mp hfatal
  unfold Stage.checkProps
  rw [run_bind_of_ok run_compiler]
  simp only [hcomparable, Check.events, hfailure, hstrict]
  refine (ends_record _).bind ?_
  exact (ends_refuse_of_strict (session.watch _) hstrict failure).bind_error

end Props

section Nodes

variable {node : Node} {check : Check}

private theorem ends_checkNode_of_registered {tag : String} {props : Props}
    {children : List Node} {events : List Event} {outcome : Except Stop Check}
    (hhas : session.compiler.registry.has tag = true)
    (hprops : session.Ends events outcome session.compiler
      (session.run (.checkProps tag props))) :
    session.Ends events (outcome.map some) session.compiler
      (session.run (.checkNode (.element tag props children))) := by
  unfold Stage.checkNode
  rw [run_bind_of_ok run_compiler, if_pos hhas]
  exact hprops.map some

private theorem ends_checkNode_of_comparison {comparison : Comparison}
    (hcomparison : Check.nodeComparison? session.compiler.registry node =
      some comparison) :
    session.Ends [] (.error (.interrupted comparison)) session.compiler
      (session.run (.checkNode node)) := by
  cases node with
  | element tag props children =>
      exact ends_checkNode_of_registered (Check.has_of_comparison? hcomparison)
        (ends_nil (run_checkProps_of_comparison hcomparison))
  | conditional condition children => contradiction
  | loop item source children => contradiction

theorem run_checkNode_of_unregistered
    (hnone : Check.ofNode session.compiler.registry node = none) :
    session.run (.checkNode node) = (.ok none, session) := by
  cases node with
  | element tag props children =>
      have hunregistered : ¬ session.compiler.registry.has tag = true := by
        intro hhas
        rw [Check.ofNode, if_pos hhas] at hnone
        contradiction
      unfold Stage.checkNode
      rw [run_bind_of_ok run_compiler, if_neg hunregistered]
      rfl
  | conditional condition children => rfl
  | loop item source children => rfl

variable
  (hcheck : Check.ofNode session.compiler.registry node = some check)
  (hcomparable : Check.nodeComparison? session.compiler.registry node = none)

include hcheck hcomparable

private theorem ends_checkNode_of_passing
    (hpasses : check.fatal? session.compiler.settings.strict = none) :
    session.Ends (check.events session.compiler.settings.strict)
      (.ok (some check)) session.compiler (session.run (.checkNode node)) := by
  obtain ⟨tag, props, children, rfl, hhas, rfl⟩ := Check.eq_run_of_ofNode hcheck
  exact ends_checkNode_of_registered hhas
    (ends_checkProps_of_passing hcomparable hpasses)

private theorem ends_checkNode_of_fatal {failure : Failure}
    (hfatal : check.fatal? session.compiler.settings.strict = some failure) :
    session.Ends (check.events session.compiler.settings.strict)
      (.error (.failed ⟨check.component, failure⟩)) session.compiler
      (session.run (.checkNode node)) := by
  obtain ⟨tag, props, children, rfl, hhas, rfl⟩ := Check.eq_run_of_ofNode hcheck
  exact ends_checkNode_of_registered hhas
    (ends_checkProps_of_fatal hcomparable hfatal)

end Nodes

/-- The session makes the checks up to the first that stops it, or up to the
first node that cannot be checked. -/
theorem ends_checkAll (nodes : List Node) :
    let registry := session.compiler.registry
    let strict := session.compiler.settings.strict
    let checks := (Check.interrupted registry nodes).1.filterMap
      (Check.ofNode registry)
    session.Ends
      ((Check.performed strict checks).flatMap (Check.events strict))
      (Check.conclusion strict checks (Check.interrupted registry nodes).2)
      session.compiler (session.run (.checkAll nodes)) := by
  induction nodes generalizing session with
  | nil =>
      simp only [Check.interrupted, List.filterMap_nil, Check.conclusion_nil,
        Check.performed_nil, List.flatMap_nil]
      exact ends_nil rfl
  | cons node rest ih =>
      unfold Stage.checkAll
      cases hcomparison :
          Check.nodeComparison? session.compiler.registry node with
      | some comparison =>
          simp only [Check.interrupted, hcomparison, List.filterMap_nil,
            Check.conclusion_nil_some, Check.performed_nil, List.flatMap_nil]
          exact (ends_checkNode_of_comparison hcomparison).bind_error
      | none =>
          simp only [Check.interrupted, hcomparison, List.filterMap_cons]
          cases hcheck : Check.ofNode session.compiler.registry node with
          | none =>
              rw [run_bind_of_ok (run_checkNode_of_unregistered hcheck)]
              simpa using @ih session
          | some check =>
              cases hfatal : check.fatal? session.compiler.settings.strict with
              | some failure =>
                  simp only [Check.conclusion_cons_of_fatal hfatal,
                    Check.performed_cons_of_fatal hfatal,
                    List.flatMap_singleton]
                  exact (ends_checkNode_of_fatal hcheck hcomparison
                    hfatal).bind_error
              | none =>
                  simp only [Check.conclusion_cons_of_passing hfatal,
                    Check.performed_cons_of_passing hfatal, List.flatMap_cons]
                  exact (ends_checkNode_of_passing hcheck hcomparison
                    hfatal).bind (ih.map (check :: ·))

end Session

/-! ## The compilation of a program -/

namespace Check

private theorem untilFailure_of_no_error {checks : List Check}
    (hnone : firstError checks = none) : untilFailure checks = checks := by
  cases hfailures : checks.filterMap failure? with
  | nil => exact untilFailure_eq_self hfailures
  | cons failure later =>
      obtain ⟨tag, herror⟩ := firstError_eq_some hfailures
      rw [hnone] at herror
      contradiction

theorem untilFailure_append_of_error {checks : List Check}
    {error : CompilationError} (herror : firstError checks = some error)
    (more : List Check) :
    untilFailure (checks ++ more) = untilFailure checks := by
  induction checks with
  | nil => contradiction
  | cons check rest ih =>
      cases hfailure : check.failure? with
      | none =>
          simp only [firstError, hfailure] at herror
          simp [untilFailure, hfailure, ih herror]
      | some failure => simp [untilFailure, hfailure]

theorem performed_of_no_error {strict : Bool} {checks : List Check}
    (hpasses : (if strict then firstError checks else none) = none) :
    performed strict checks = checks := by
  cases strict with
  | false => rfl
  | true => exact untilFailure_of_no_error hpasses

theorem interrupted_fst_of_none {registry : Registry} {nodes : List Node}
    (hnone : (interrupted registry nodes).2 = none) :
    (interrupted registry nodes).1 = nodes := by
  induction nodes with
  | nil => rfl
  | cons node rest ih =>
      cases hcomparison : nodeComparison? registry node with
      | none =>
          simp only [interrupted, hcomparison] at hnone ⊢
          rw [ih hnone]
      | some comparison =>
          simp only [interrupted, hcomparison] at hnone
          contradiction

end Check

namespace Compiler

variable {compiler : Compiler} {program : Program}

/-- The checks of the nodes before the first that cannot be checked. -/
def reachableChecks (compiler : Compiler) (program : Program) : List Check :=
  let registry := (compiler.defineAll program.definitions).registry
  (Check.interrupted registry program.nodes).1.filterMap (Check.ofNode registry)

theorem interruption?_eq (compiler : Compiler) (program : Program) :
    compiler.interruption? program =
      (compiler.interruptingComparison? program).bind fun comparison =>
        if compiler.settings.strict &&
            (Check.firstError (compiler.reachableChecks program)).isSome then
          none
        else
          some { compiler := compiler.defineAll program.definitions
                 events := compiler.opening program
                   (compiler.reachableChecks program)
                 comparison } := by
  unfold interruptingComparison? reachableChecks
  cases hfound : Check.interrupted
      (compiler.defineAll program.definitions).registry program.nodes with
  | mk before found =>
      cases found with
      | none => simp only [interruption?, hfound, Option.bind_none]
      | some comparison =>
          simp only [interruption?, hfound, Option.bind_some]

/-- A failure that stops a strict compiler keeps it from an interruption after
it, and from all later checks. -/
theorem attempt_of_error {error : CompilationError}
    (hstrict : compiler.settings.strict = true)
    (herror : Check.firstError (compiler.reachableChecks program) =
      some error) :
    compiler.attempt program =
      .ok { compiler := compiler.defineAll program.definitions
            events := compiler.opening program
              (Check.untilFailure (compiler.reachableChecks program))
            outcome := .error error } := by
  let registry := (compiler.defineAll program.definitions).registry
  have hinterruption : compiler.interruption? program = none := by
    rw [interruption?_eq, hstrict, herror]
    cases compiler.interruptingComparison? program <;> rfl
  obtain ⟨after, hafter⟩ :=
    Check.exists_eq_interrupted_append registry program.nodes
  have hall : Check.all registry program =
      compiler.reachableChecks program ++
        after.filterMap (Check.ofNode registry) := by
    rw [Check.all, reachableChecks, ← List.filterMap_append, ← hafter]
  have hperformed : Check.performed true (Check.all registry program) =
      Check.untilFailure (compiler.reachableChecks program) := by
    rw [Check.performed, if_pos rfl, hall,
      Check.untilFailure_append_of_error herror]
  have hfirst : Check.firstError
      (Check.untilFailure (compiler.reachableChecks program)) = some error := by
    rw [firstError_untilFailure, herror]
  rw [attempt, hinterruption]
  simp only [compile, hstrict, registry, hperformed, hfirst]
  rfl

section Passing

variable
  (hpasses : (if compiler.settings.strict then
    Check.firstError (compiler.reachableChecks program) else none) = none)

include hpasses

theorem attempt_of_comparison {comparison : Comparison}
    (hcomparison : compiler.interruptingComparison? program =
      some comparison) :
    compiler.attempt program =
      .error { compiler := compiler.defineAll program.definitions
               events := compiler.opening program
                 (compiler.reachableChecks program)
               comparison } := by
  have hgoes : (compiler.settings.strict &&
      (Check.firstError (compiler.reachableChecks program)).isSome) =
        false := by
    cases hstrict : compiler.settings.strict with
    | false => rfl
    | true =>
        rw [hstrict, if_pos rfl] at hpasses
        rw [hpasses]
        rfl
  rw [attempt, interruption?_eq, hcomparison, Option.bind_some, hgoes]
  rfl

theorem attempt_of_complete
    (hnone : compiler.interruptingComparison? program = none) :
    compiler.attempt program =
      let defined := compiler.defineAll program.definitions
      let result := defined.result program (compiler.reachableChecks program)
      .ok { compiler := defined
            events := compiler.opening program
                (compiler.reachableChecks program) ++
              Event.ofLog (defined.generationLog program) ++
                [.reached .afterOutput (resultPayload result),
                  .logged (doneRecord result)]
            outcome := .ok result } := by
  let registry := (compiler.defineAll program.definitions).registry
  have hall : Check.all registry program =
      compiler.reachableChecks program := by
    rw [Check.all, reachableChecks, Check.interrupted_fst_of_none hnone]
  have hperformed :
      Check.performed compiler.settings.strict (Check.all registry program) =
        compiler.reachableChecks program := by
    rw [hall, Check.performed_of_no_error hpasses]
  rw [attempt, interruption?_eq_none hnone]
  simp only [compile, registry, hperformed, hpasses]

end Passing

theorem opening_eq_append (compiler : Compiler) (program : Program)
    (checks : List Check) :
    compiler.opening program checks =
      compiler.opening program [] ++
        checks.flatMap (Check.events compiler.settings.strict) := by
  simp [opening]

section Attempt

variable {source : Source} {log : Log}
  (hload : source.load = .ok (program, log))

include hload

theorem answer_of_attempt {compilation : Compilation}
    (hattempt : compiler.attempt program = .ok compilation) :
    compiler.answer source = compilation.outcome.mapError .failed := by
  rw [answer, attemptSource_of_load hload, hattempt]

theorem answer_of_attempt_error {interruption : Interruption}
    (hattempt : compiler.attempt program = .error interruption) :
    compiler.answer source =
      .error (.interrupted interruption.comparison) := by
  rw [answer, attemptSource_of_load hload, hattempt]

end Attempt

/-- The answer to a source is decided by the checks up to the first node that
cannot be checked. -/
theorem answer_eq_conclusion {source : Source} {log : Log}
    (hload : source.load = .ok (program, log)) :
    compiler.answer source =
      (Check.conclusion compiler.settings.strict
        (compiler.reachableChecks program)
        (compiler.interruptingComparison? program)).map
          ((compiler.defineAll program.definitions).result program) := by
  unfold Check.conclusion
  cases hfatal : (if compiler.settings.strict then
      Check.firstError (compiler.reachableChecks program) else none) with
  | some error =>
      obtain ⟨hstrict, herror⟩ := Option.ite_none_right_eq_some.mp hfatal
      rw [answer_of_attempt hload (attempt_of_error hstrict herror)]
      rfl
  | none =>
      cases hcomparison : compiler.interruptingComparison? program with
      | some comparison =>
          rw [answer_of_attempt_error hload
            (attempt_of_comparison hfatal hcomparison)]
          rfl
      | none =>
          rw [answer_of_attempt hload (attempt_of_complete hfatal hcomparison)]
          rfl

theorem answer_ne_ended {source : Source} {log : Log} {raised : Raised}
    (hload : source.load = .ok (program, log)) :
    compiler.answer source ≠ .error (.ended raised) := by
  rw [answer_eq_conclusion hload]
  unfold Check.conclusion
  cases (if compiler.settings.strict then
      Check.firstError (compiler.reachableChecks program) else none) with
  | some error => simp [Except.map]
  | none =>
      cases compiler.interruptingComparison? program with
      | some comparison => simp [Except.map]
      | none => simp [Except.map]

/-- The events of compiling a program, up to an interruption if there is
one. -/
def history (compiler : Compiler) (program : Program) : List Event :=
  match compiler.attempt program with
  | .error interruption => interruption.events
  | .ok compilation => compilation.events

/-- The events after the checks; there are none if these stopped the
compiler. -/
def closing (compiler : Compiler) (program : Program) :
    Except Stop (List Check) → List Event
  | .error _ => []
  | .ok checks =>
      Event.ofLog (compiler.generationLog program) ++
        [.reached .afterOutput
            (resultPayload (compiler.result program checks)),
          .logged (doneRecord (compiler.result program checks))]

theorem history_eq (compiler : Compiler) (program : Program) :
    compiler.history program =
      compiler.opening program
          (Check.performed compiler.settings.strict
            (compiler.reachableChecks program)) ++
        (compiler.defineAll program.definitions).closing program
          (Check.conclusion compiler.settings.strict
            (compiler.reachableChecks program)
            (compiler.interruptingComparison? program)) := by
  unfold history Check.conclusion
  cases hfatal : (if compiler.settings.strict then
      Check.firstError (compiler.reachableChecks program) else none) with
  | some error =>
      obtain ⟨hstrict, herror⟩ := Option.ite_none_right_eq_some.mp hfatal
      rw [attempt_of_error hstrict herror, hstrict]
      simp only [closing, List.append_nil]
      rfl
  | none =>
      rw [Check.performed_of_no_error hfatal]
      cases hcomparison : compiler.interruptingComparison? program with
      | some comparison =>
          rw [attempt_of_comparison hfatal hcomparison]
          simp only [closing, List.append_nil]
      | none =>
          rw [attempt_of_complete hfatal hcomparison]
          simp only [closing, List.append_assoc]

end Compiler

/-- The program of a source; one that cannot be loaded counts as empty. -/
def Source.content (source : Source) : Program :=
  match source.load with
  | .ok (loaded, _) => loaded
  | .error _ => {}

theorem Source.content_of_load {source : Source} {loaded : Program} {log : Log}
    (hload : source.load = .ok (loaded, log)) : source.content = loaded := by
  rw [content, hload]

namespace Session

variable {session : Session} {source : Source} {program : Program} {log : Log}

private theorem ends_load (hload : source.load = .ok (program, log)) :
    session.Ends (Event.ofLog log) (.ok program) session.compiler
      (session.run (.load source)) := by
  unfold Stage.load
  rw [hload]
  exact (ends_record log).map fun _ => program

private theorem ends_begin (program : Program) :
    session.Ends (session.compiler.opening program []) (.ok ())
      (session.compiler.defineAll program.definitions)
      (session.run (.begin program)) := by
  unfold Stage.begin
  rw [run_bind_of_ok run_compiler]
  simp only [Compiler.opening, List.flatMap_nil, List.append_nil]
  refine (ends_record [Compiler.startRecord _]).bind ?_
  exact (ends_reach _ _).bind (ends_defineAll _)

private theorem ends_generate (checks : List Check) :
    let result := session.compiler.result program checks
    session.Ends
      (Event.ofLog (session.compiler.generationLog program) ++
        [.reached .afterOutput (Compiler.resultPayload result),
          .logged (Compiler.doneRecord result)])
      (.ok result) session.compiler
      (session.run (.generate program checks)) := by
  unfold Stage.generate
  rw [run_bind_of_ok run_compiler]
  refine (ends_record _).bind ((ends_reach _ _).bind ?_)
  exact (ends_record [Compiler.doneRecord _]).map
    fun _ => session.compiler.result program checks

theorem compile_of_load_error {error : LoadError}
    (hload : source.load = .error error) :
    session.compile source = (.error (.unloadable error), session) := by
  have hstage : session.run (.load source) =
      (.error (.unloadable error), session) := by
    unfold Stage.load
    rw [hload]
    rfl
  exact run_bind_of_error hstage

/-- What a session makes of a program that was loaded is what its compiler makes
of it alone, and the hooks of the session watch it. -/
theorem ends_compile (hload : source.load = .ok (program, log)) :
    session.Ends (Event.ofLog log ++ session.compiler.history program)
      (session.compiler.answer source)
      (session.compiler.defineAll program.definitions)
      (session.compile source) := by
  let compiler := session.compiler
  let checks := compiler.reachableChecks program
  let begun := ((session.withCompiler compiler).watch
    (Event.ofLog log)).withCompiler
      (compiler.defineAll program.definitions) |>.watch
        (compiler.opening program [])
  have hchecks : begun.Ends
      ((Check.performed compiler.settings.strict checks).flatMap
        (Check.events compiler.settings.strict))
      (Check.conclusion compiler.settings.strict checks
        (compiler.interruptingComparison? program))
      (compiler.defineAll program.definitions)
      (begun.run (.checkAll program.nodes)) := by
    rw [← Compiler.defineAll_settings compiler program.definitions]
    exact ends_checkAll program.nodes
  rw [Compiler.answer_eq_conclusion hload, Compiler.history_eq,
    Compiler.opening_eq_append, List.append_assoc]
  refine (ends_load hload).bind ((ends_begin program).bind ?_)
  cases hconclusion : Check.conclusion compiler.settings.strict checks
      (compiler.interruptingComparison? program) with
  | error stop =>
      rw [hconclusion] at hchecks
      simp only [Compiler.closing, List.append_nil]
      exact hchecks.bind_error
  | ok found =>
      rw [hconclusion] at hchecks
      exact hchecks.bind (ends_generate found)

/-- No hook cuts the compilation of the source off. -/
def Uncut (session : Session) (source : Source) : Prop :=
  ∀ raised, (session.compile source).1 ≠ .error (.ended raised)

theorem uncut_iff (hload : source.load = .ok (program, log)) :
    session.Uncut source ↔
      (session.hooks.observe
        (Event.ofLog log ++ session.compiler.history program)).ended =
          none := by
  obtain ⟨hquiet, hcompile⟩ | ⟨raised, reached, hended, hcompile⟩ :=
    @ends_compile session source program log hload
  · refine iff_of_true ?_ hquiet
    intro raised
    rw [hcompile]
    exact Compiler.answer_ne_ended hload
  · refine iff_of_false ?_ (by simp [hended])
    intro huncut
    exact huncut raised (congrArg Prod.fst hcompile)

theorem compile_of_load (huncut : session.Uncut source)
    (hload : source.load = .ok (program, log)) :
    session.compile source =
      (session.compiler.answer source,
        (session.withCompiler
            (session.compiler.defineAll program.definitions)).watch
          (Event.ofLog log ++ session.compiler.history program)) := by
  obtain ⟨-, hcompile⟩ | ⟨raised, reached, -, hcompile⟩ := ends_compile hload
  · exact hcompile
  · exact absurd (congrArg Prod.fst hcompile) (huncut raised)

/-- Hooks have no say in what a session gives, unless they cut it off. -/
theorem compile_fst (huncut : session.Uncut source) :
    (session.compile source).1 = session.compiler.answer source := by
  cases hload : source.load with
  | error error =>
      rw [compile_of_load_error hload, Compiler.answer_of_load_error hload]
  | ok loaded => rw [compile_of_load huncut hload]

/-- Nor have they in what becomes of its compiler. -/
theorem compile_compiler (huncut : session.Uncut source) :
    (session.compile source).2.compiler =
      session.compiler.defineAll source.content.definitions := by
  cases hload : source.load with
  | error error =>
      rw [compile_of_load_error hload, Source.content, hload]
      rfl
  | ok loaded =>
      rw [compile_of_load huncut hload, Source.content_of_load hload]
      rfl

/-- A compilation is cut off by what a function raises. -/
theorem exists_escape_of_compile {raised : Raised}
    (hended : (session.compile source).1 = .error (.ended raised)) :
    ∃ name payload,
      ((session.hooks.functions name).action.conduct payload).escaped? =
        some raised := by
  cases hload : source.load with
  | error error =>
      simp [compile_of_load_error hload] at hended
  | ok loaded =>
      obtain ⟨-, hcompile⟩ | ⟨other, reached, hother, hcompile⟩ :=
        @ends_compile session source loaded.1 loaded.2 hload
      · rw [hcompile] at hended
        exact absurd hended (Compiler.answer_ne_ended hload)
      · rw [hcompile] at hended
        injection hended with hstop
        injection hstop with hraised
        rw [hraised] at hother
        exact Hooks.exists_escape_of_observe hother

/-- Hooks that are tame before a compilation are so after it. -/
theorem tame_compile (htame : session.hooks.Tame) (source : Source) :
    (session.compile source).2.hooks.Tame := by
  have hfunctions : (session.compile source).2.hooks.functions =
      session.hooks.functions := by
    cases hload : source.load with
    | error error => rw [compile_of_load_error hload]
    | ok loaded =>
        obtain ⟨-, hcompile⟩ | ⟨raised, reached, -, hcompile⟩ :=
          @ends_compile session source loaded.1 loaded.2 hload
        · rw [hcompile]
          exact Hooks.functions_observe _ _
        · rw [hcompile]
          exact Hooks.functions_observe _ _
  intro name payload
  rw [hfunctions]
  exact htame name payload

theorem uncut_of_tame (htame : session.hooks.Tame) (source : Source) :
    session.Uncut source := by
  intro raised hended
  obtain ⟨name, payload, hescaped⟩ := exists_escape_of_compile hended
  rw [htame name payload] at hescaped
  contradiction

theorem uncut_without_hooks (compiler : Compiler) (source : Source) :
    ({ compiler } : Session).Uncut source :=
  uncut_of_tame Hooks.tame_empty source

/-- The meddler overwrites the program in its payload, and has itself and the
saboteur watch components.  The saboteur clears all hooks and fails. -/
def meddlers : Hooks where
  functions name :=
    { id := .text name
      action :=
        if name = "meddler" then
          .set "program" (.text "none")
            (.register (.text "on_component") (.function "meddler")
              (fun error => .fail error.message)
              (.register (.text "on_component") (.function "saboteur")
                (fun error => .fail error.message) (.answer (.value .null))))
        else .clear (.fail "no more hooks") }
  registered := [(.beforeCompile, .function "meddler")]

private theorem meddlers_tame : meddlers.Tame := by
  intro name payload
  by_cases hname : name = "meddler"
  · simp only [meddlers, if_pos hname]
    rfl
  · simp only [meddlers, if_neg hname]
    rfl

/-- The quitter ends the program at the first component. -/
def quitters : Hooks where
  functions _ := { action := .escape ⟨"SystemExit", "3"⟩ }
  registered := [(.onComponent, .function "quitter")]

def cards : Source :=
  .program { definitions := [{ name := "Card" }, { name := "Row" }] }

end Session

end ViewCompiler
