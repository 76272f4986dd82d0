import ViewCompiler.Proofs.Compilation.Refusals

/-!
# The lifecycle of a compilation

Hooks that record what they are told, and leave the registered hooks alone, see
a compilation as a list of notices: it has started, it has defined a component,
it has refused an element, it has finished.  The events of a compilation are
made by nested loops, with records of the log in between, and may break off at a
refused element.  What is recorded of them is the notices in the order of the
program: its start, its definitions, its refused elements, its end.
-/

namespace ViewCompiler

/-- What hooks are told of a compilation. -/
inductive Notice where
  | started (program : Program) (settings : Settings)
  | defined (definition : Definition) (schemas : Entries Schema)
  | refused (component : String) (failure : Failure)
  | finished (result : CompilationResult)

namespace Notice

def point : Notice → HookPoint
  | started _ _ => .beforeCompile
  | defined _ _ => .onComponent
  | refused _ _ => .onValidationError
  | finished _ => .afterOutput

def payload : Notice → Payload
  | started program settings =>
    [("program", .program program), ("config", .settings settings)]
  | defined definition schemas =>
    [("name", .text definition.name), ("definition", .definition definition),
      ("schemas", .schemas schemas)]
  | refused component failure =>
    [("kind", .text "validation_error"), ("component_name", .text component),
      ("error", .failure failure)]
  | finished result =>
    [("result", .result result), ("code", .text result.code),
      ("file_name", .text result.fileName)]

/-- The call by which a notice reaches the hook of its point. -/
def call (ids : HookPoint → Value) (notice : Notice) : HookCall :=
  ⟨ids notice.point, notice.payload⟩

end Notice

/-! ## Hooks that record -/

/-- Every point is watched by one hook.  It may do anything with what it is
handed, but leaves the registered hooks as they are, and raises nothing that is
not caught. -/
def Hooks.Recording (hooks : Hooks) (ids : HookPoint → Value) : Prop :=
  ∀ point, ∃ name, hooks.hooksAt point = [.function name] ∧
    (hooks.functions name).id = ids point ∧
    ∀ payload,
      let called := hooks.call payload (.function name)
      called.hooks = hooks ∧ ∀ raised, called.outcome ≠ .escaped raised

/-- The call that an event leads to. -/
def Event.call? (ids : HookPoint → Value) : Event → Option HookCall
  | .logged _ => none
  | .reached point payload => some ⟨ids point, payload⟩

theorem Event.filterMap_call?_ofLog (ids : HookPoint → Value) (log : Log) :
    (Event.ofLog log).filterMap (Event.call? ids) = [] := by
  simp [Event.ofLog, Event.call?]

namespace Hooks.Recording

variable {hooks : Hooks} {ids : HookPoint → Value}

theorem execute (hrecording : hooks.Recording ids) (point : HookPoint)
    (payload : Payload) :
    (hooks.execute point payload).hooks = hooks ∧
      (hooks.execute point payload).calls = [⟨ids point, payload⟩] ∧
      (hooks.execute point payload).ended = none := by
  obtain ⟨name, hat, hid, hcalled⟩ := hrecording point
  obtain ⟨hsteady, hcaught⟩ := hcalled payload
  rw [Hooks.execute, hat, callAll, ← hid]
  cases houtcome : (hooks.call payload (.function name)).outcome with
  | answered datum => exact ⟨hsteady, rfl, rfl⟩
  | failed reason => exact ⟨hsteady, rfl, rfl⟩
  | escaped raised => exact absurd houtcome (hcaught raised)

theorem observe (hrecording : hooks.Recording ids) (events : List Event) :
    (hooks.observe events).hooks = hooks ∧
      (hooks.observe events).calls = events.filterMap (Event.call? ids) ∧
      (hooks.observe events).ended = none := by
  induction events with
  | nil => exact ⟨rfl, rfl, rfl⟩
  | cons event rest ih =>
      cases event with
      | logged record => exact ih
      | reached point payload =>
          obtain ⟨hsame, hcalls, hended⟩ := hrecording.execute point payload
          simp only [Hooks.observe, hsame, hcalls, hended, Option.isSome_none,
            Bool.false_eq_true, if_false, ih, List.filterMap_cons,
            Event.call?]
          exact ⟨trivial, rfl, trivial⟩

end Hooks.Recording

/-! ## The notices of a compilation -/

namespace Compiler

/-- The notices of a compilation up to the given refused elements. -/
def notices (compiler : Compiler) (program : Program)
    (refusals : List (String × Failure)) : List Notice :=
  .started program compiler.settings ::
    program.definitions.map
        (fun definition =>
          .defined definition (compiler.schemasFor definition)) ++
      refusals.map fun refusal => .refused refusal.1 refusal.2

variable (ids : HookPoint → Value)

theorem calls_defineEvents (compiler : Compiler)
    (definitions : List Definition) :
    (compiler.defineEvents definitions).filterMap (Event.call? ids) =
      (definitions.map fun definition =>
        Notice.defined definition (compiler.schemasFor definition)).map
          (Notice.call ids) := by
  induction definitions generalizing compiler with
  | nil => rfl
  | cons definition rest ih =>
      -- Definitions change the registry, and schemas are declared elsewhere.
      have hschemas : (compiler.define definition).schemasFor =
          compiler.schemasFor := rfl
      rw [defineEvents, List.filterMap_append, Event.filterMap_call?_ofLog,
        List.nil_append, List.filterMap_cons, ih, hschemas]
      rfl

theorem calls_checkEvents (strict : Bool) (checks : List Check) :
    (checks.flatMap (Check.events strict)).filterMap (Event.call? ids) =
      ((checks.filterMap Check.refusal?).map fun refusal =>
        Notice.refused refusal.1 refusal.2).map (Notice.call ids) := by
  induction checks with
  | nil => rfl
  | cons check rest ih =>
      rw [List.flatMap_cons, List.filterMap_append, ih, Check.events,
        List.filterMap_append, Event.filterMap_call?_ofLog, List.nil_append,
        List.filterMap_cons, Check.refusal?]
      cases check.failure? with
      | none => rfl
      | some failure =>
          cases strict with
          | true => rfl
          | false =>
              simp only [Bool.false_eq_true, if_false, List.filterMap_cons,
                Event.filterMap_call?_ofLog]
              rfl

theorem calls_opening (compiler : Compiler) (program : Program)
    (checks : List Check) :
    (compiler.opening program checks).filterMap (Event.call? ids) =
      (compiler.notices program (checks.filterMap Check.refusal?)).map
        (Notice.call ids) := by
  have hevents : compiler.opening program checks =
      [.logged (startRecord compiler.settings),
        .reached .beforeCompile (programPayload compiler.settings program)] ++
        (compiler.defineEvents program.definitions ++
          checks.flatMap (Check.events compiler.settings.strict)) := rfl
  rw [hevents, List.filterMap_append, List.filterMap_append,
    calls_defineEvents, calls_checkEvents, notices, List.cons_append,
    List.map_cons, List.map_append]
  rfl

theorem calls_closing_ok (compiler : Compiler) (program : Program)
    (checks : List Check) :
    (compiler.closing program (.ok checks)).filterMap (Event.call? ids) =
      [(Notice.finished (compiler.result program checks)).call ids] := by
  rw [closing, List.filterMap_append, Event.filterMap_call?_ofLog]
  rfl

end Compiler

namespace Session

variable {session : Session} {source : Source} {program : Program} {log : Log}
  {ids : HookPoint → Value}

theorem uncut_of_recording (hload : source.load = .ok (program, log))
    (hrecording : session.hooks.Recording ids) : session.Uncut source :=
  (uncut_iff hload).mpr (hrecording.observe _).2.2

theorem calls_compile (hload : source.load = .ok (program, log))
    (hrecording : session.hooks.Recording ids) :
    let compiler := session.compiler
    let checks := compiler.reachableChecks program
    (session.compile source).2.calls =
      session.calls ++
        ((compiler.notices program
            ((Check.performed compiler.settings.strict checks).filterMap
              Check.refusal?)).map (Notice.call ids) ++
          ((compiler.defineAll program.definitions).closing program
            (Check.conclusion compiler.settings.strict checks
              (compiler.interruptingComparison? program))).filterMap
                (Event.call? ids)) := by
  intro compiler checks
  have hcalls := (hrecording.observe
    (Event.ofLog log ++ compiler.history program)).2.1
  rw [List.filterMap_append, Event.filterMap_call?_ofLog, List.nil_append,
    Compiler.history_eq, List.filterMap_append,
    Compiler.calls_opening] at hcalls
  rw [compile_of_load (uncut_of_recording hload hrecording) hload, ← hcalls,
    ← Compiler.history_eq]
  rfl

section Endings

variable (hload : source.load = .ok (program, log))
  (hrecording : session.hooks.Recording ids)

include hload hrecording

private theorem ends_refused {error : CompilationError}
    (hstrict : session.compiler.settings.strict = true)
    (herror : Check.firstError (session.compiler.reachableChecks program) =
      some error) :
    ∃ later,
      (session.compiler.defineAll program.definitions).registry.refusals
          program.nodes = (error.component, error.failure) :: later ∧
        (session.compile source).1 = .error (.failed error) ∧
        (session.compile source).2.calls = session.calls ++
          (session.compiler.notices program
            [(error.component, error.failure)]).map (Notice.call ids) := by
  let checks := session.compiler.reachableChecks program
  have hperformed :
      (Check.performed true checks).filterMap Check.refusal? =
        [(error.component, error.failure)] := by
    rw [Check.firstError_eq_head?] at herror
    obtain ⟨refusal, hhead, rfl⟩ := Option.map_eq_some_iff.mp herror
    rw [Check.performed, if_pos rfl, Check.refusals_untilFailure,
      List.take_one, hhead]
    rfl
  obtain ⟨hanswer, later, hrefusals⟩ :=
    Compiler.answer_of_firstError hload hstrict herror
  have huncut := uncut_of_recording hload hrecording
  refine ⟨later, hrefusals, (compile_fst huncut).trans hanswer, ?_⟩
  rw [calls_compile hload hrecording, hstrict, hperformed,
    Check.conclusion_of_firstError herror]
  simp [Compiler.closing]

variable
  (hpasses : (if session.compiler.settings.strict then
    Check.firstError (session.compiler.reachableChecks program) else none) =
      none)

include hpasses

private theorem ends_interrupted {comparison : Comparison}
    (hcomparison : session.compiler.interruptingComparison? program =
      some comparison) :
    (session.compile source).1 = .error (.interrupted comparison) ∧
      (session.compile source).2.calls = session.calls ++
        (session.compiler.notices program
          ((session.compiler.reachableChecks program).filterMap
            Check.refusal?)).map (Notice.call ids) := by
  refine ⟨?_, ?_⟩
  · rw [compile_fst (uncut_of_recording hload hrecording),
      Compiler.answer_of_comparison hload hpasses hcomparison]
  · rw [calls_compile hload hrecording, hcomparison,
      Check.conclusion_of_comparison hpasses comparison,
      Check.performed_of_no_error hpasses]
    simp [Compiler.closing]

private theorem ends_finished
    (hnone : session.compiler.interruptingComparison? program = none) :
    let refusals :=
      (session.compiler.defineAll program.definitions).registry.refusals
        program.nodes
    ∃ result, (session.compile source).1 = .ok result ∧
      result.failures = refusals.map Prod.snd ∧
      (session.compiler.settings.strict = true → refusals = []) ∧
      (session.compile source).2.calls = session.calls ++
        (session.compiler.notices program refusals ++
          [Notice.finished result]).map (Notice.call ids) := by
  intro refusals
  let checks := session.compiler.reachableChecks program
  have hrefusals : checks.filterMap Check.refusal? = refusals :=
    Compiler.reachableRefusals_eq hnone
  obtain ⟨hanswer, hfailures, hstrict⟩ :=
    Compiler.answer_of_passing hload hpasses hnone
  have huncut := uncut_of_recording hload hrecording
  refine ⟨_, (compile_fst huncut).trans hanswer, hfailures, hstrict, ?_⟩
  rw [calls_compile hload hrecording, hnone,
    Check.conclusion_of_complete hpasses,
    Check.performed_of_no_error hpasses, hrefusals,
    Compiler.calls_closing_ok, List.map_append]
  rfl

end Endings

/-- A compilation that hooks record is told in the order of the program.  It
starts, it defines every component in order, it refuses every element that fails
in the order of a walk, and it finishes; the failures of its result are those
that were told.  A strict compilation that refuses an element tells of the first
one only, stops with its failure, and does not finish.  The only exception are
schemas with a bound that is no number: an element may then interrupt the
compilation, which has told of the refused elements before it. -/
theorem trace_follows_lifecycle (hload : source.load = .ok (program, log))
    (hrecording : session.hooks.Recording ids) :
    let compiler := session.compiler
    let refusals := (compiler.defineAll program.definitions).registry.refusals
      program.nodes
    let ended := session.compile source
    (∃ result, ended.1 = .ok result ∧
      result.failures = refusals.map Prod.snd ∧
      (compiler.settings.strict = true → refusals = []) ∧
      ended.2.calls = session.calls ++
        (compiler.notices program refusals ++ [Notice.finished result]).map
          (Notice.call ids)) ∨
    (compiler.settings.strict = true ∧
      ∃ tag failure later, refusals = (tag, failure) :: later ∧
        ended.1 = .error (.failed ⟨tag, failure⟩) ∧
        ended.2.calls = session.calls ++
          (compiler.notices program [(tag, failure)]).map
            (Notice.call ids)) ∨
    (compiler.hasNumericBounds = false ∧
      ∃ comparison told, told <+: refusals ∧
        ended.1 = .error (.interrupted comparison) ∧
        ended.2.calls = session.calls ++
          (compiler.notices program told).map (Notice.call ids)) := by
  intro compiler refusals ended
  -- A failure stops a strict compilation before it can be interrupted, so it is
  -- asked for first.
  cases hfatal : (if compiler.settings.strict then
      Check.firstError (compiler.reachableChecks program) else none) with
  | some error =>
      obtain ⟨hstrict, herror⟩ := Option.ite_none_right_eq_some.mp hfatal
      obtain ⟨later, hrefusals⟩ :=
        ends_refused hload hrecording hstrict herror
      exact Or.inr (Or.inl
        ⟨hstrict, error.component, error.failure, later, hrefusals⟩)
  | none =>
      cases hcomparison : compiler.interruptingComparison? program with
      | none => exact Or.inl (ends_finished hload hrecording hfatal hcomparison)
      | some comparison =>
          exact Or.inr (Or.inr
            ⟨Compiler.hasNumericBounds_of_interrupting hcomparison, comparison,
              _, compiler.isPrefix_reachableRefusals program,
              ends_interrupted hload hrecording hfatal hcomparison⟩)

/-- A program whose definition has a title without a text, and whose body has a
button that does nothing. -/
def panels : Program :=
  { definitions :=
      [{ name := "Panel", body := [.element "Title" [] []] },
        { name := "Footer" }]
    body :=
      [.loop "row" (.of "rows")
        [.element "Panel" [] [],
          .element "Button" [("text", .text "Go")] []]] }

/-- A session with a hook at every point that marks the payload and fails. -/
def recordingSession (strict : Bool) : Session :=
  { compiler := { settings := { strict }, registry := Builtin.registry }
    hooks :=
      { functions := fun name =>
          { id := .text name
            action := .set "seen" (.text "yes") (.fail "only recording") }
        registered := HookPoint.all.map fun point =>
          (point, .function point.name) } }

theorem recordingSession_records (strict : Bool) :
    (recordingSession strict).hooks.Recording
      fun point => .text point.name := by
  intro point
  refine ⟨point.name, ?_, rfl, fun payload => ⟨rfl, ?_⟩⟩
  · cases point <;> rfl
  · intro raised houtcome
    contradiction

theorem refusals_panels (strict : Bool) :
    ∃ first second,
      ((recordingSession strict).compiler.defineAll
          panels.definitions).registry.refusals panels.nodes =
        [("Title", first), ("Button", second)] := by
  have htags : (((recordingSession strict).compiler.defineAll
      panels.definitions).registry.refusals panels.nodes).map Prod.fst =
        ["Title", "Button"] := by
    cases strict <;> decide +kernel
  obtain ⟨⟨_, first⟩, _, hlist, rfl, hrest⟩ := List.map_eq_cons_iff.mp htags
  obtain ⟨⟨_, second⟩, _, rfl, rfl, hnil⟩ := List.map_eq_cons_iff.mp hrest
  rw [List.map_eq_nil_iff.mp hnil] at hlist
  exact ⟨first, second, hlist⟩

theorem panels_recorded :
    let ids (point : HookPoint) : Value := .text point.name
    let lenient := (recordingSession false).compile (.program panels)
    let strict := (recordingSession true).compile (.program panels)
    let opening (settings : Settings) : List Notice :=
      [.started panels settings,
        .defined { name := "Panel", body := [.element "Title" [] []] } [],
        .defined { name := "Footer" } []]
    (recordingSession true).hooks.Recording ids ∧
      (∃ result first second, lenient.1 = .ok result ∧
        result.failures = [first, second] ∧
        lenient.2.calls =
          (opening {} ++ [Notice.refused "Title" first,
            .refused "Button" second, .finished result]).map
              (Notice.call ids)) ∧
      ∃ failure, strict.1 = .error (.failed ⟨"Title", failure⟩) ∧
        strict.2.calls =
          (opening { strict := true } ++ [Notice.refused "Title" failure]).map
            (Notice.call ids) := by
  intro ids lenient strict opening
  have hnumeric : ∀ strict,
      (recordingSession strict).compiler.hasNumericBounds = true := by
    intro strict
    cases strict <;> decide +kernel
  have hload : (Source.program panels).load = .ok (panels, []) := rfl
  have hcalls : ∀ strict, (recordingSession strict).calls = [] := fun _ => rfl
  have hnotices : ∀ strict refusals,
      (recordingSession strict).compiler.notices panels refusals =
        opening { strict } ++
          refusals.map fun refusal => .refused refusal.1 refusal.2 :=
    fun _ _ => rfl
  have hended : ∀ strict, _ := fun strict =>
    trace_follows_lifecycle hload (recordingSession_records strict)
  refine ⟨recordingSession_records true, ?_, ?_⟩
  · obtain ⟨first, second, hrefusals⟩ := refusals_panels false
    rcases hended false with
      ⟨result, hresult, hfailures, _, htold⟩ | ⟨hstrict, _⟩ | ⟨hbounds, _⟩
    · rw [hrefusals] at hfailures htold
      rw [hcalls, hnotices, List.nil_append, List.append_assoc] at htold
      refine ⟨result, first, second, hresult, hfailures, ?_⟩
      simpa only [lenient, ids, List.map_cons, List.map_nil, List.cons_append,
        List.nil_append] using htold
    · contradiction
    · rw [hnumeric false] at hbounds
      contradiction
  · obtain ⟨first, second, hrefusals⟩ := refusals_panels true
    rcases hended true with
      ⟨result, _, _, hnone, _⟩ |
        ⟨_, tag, failure, later, hlist, hstops, htold⟩ | ⟨hbounds, _⟩
    · rw [hrefusals] at hnone
      exact absurd (hnone rfl) (by simp)
    · rw [hrefusals] at hlist
      obtain ⟨hhead, rfl⟩ := List.cons.inj hlist
      obtain ⟨rfl, rfl⟩ := Prod.mk.inj hhead
      rw [hcalls, hnotices, List.nil_append] at htold
      refine ⟨first, hstops, ?_⟩
      simpa only [strict, ids, List.map_cons, List.map_nil] using htold
    · rw [hnumeric true] at hbounds
      contradiction

end Session

end ViewCompiler
