import ViewCompiler.Proofs.Compilation.Refusals

/-!
# Warnings about undeclared properties

The registry warns of a property that is not declared as soon as the declared
ones have passed.  The result of a compilation lists such a property only if the
element passes as a whole, so the two differ by the elements that break a rule:
what the registry has warned of is left out of the result.
-/

namespace ViewCompiler

/-! ## Warnings of the registry in a log -/

/-- The message of a warning that comes from the registry. -/
def LogRecord.registryWarning? (record : LogRecord) : Option String :=
  if record.level = .warning ∧ record.source = .registry then
    some record.message
  else none

namespace Log

def registryWarnings (log : Log) : List String :=
  log.filterMap LogRecord.registryWarning?

theorem registryWarnings_append (first second : Log) :
    registryWarnings (first ++ second) =
      first.registryWarnings ++ second.registryWarnings :=
  List.filterMap_append

theorem registryWarnings_eq_nil {log : Log}
    (hother : ∀ record ∈ log,
      record.level = .debug ∨ record.source ≠ .registry) :
    log.registryWarnings = [] := by
  rw [registryWarnings, List.filterMap_eq_nil_iff]
  intro record hrecord
  rcases hother record hrecord with hlevel | hsource
  · simp [LogRecord.registryWarning?, hlevel]
  · simp [LogRecord.registryWarning?, hsource]

end Log

def Event.registryWarning? : Event → Option String
  | .logged record => record.registryWarning?
  | .reached _ _ => none

theorem Event.filterMap_registryWarning?_ofLog (log : Log) :
    (ofLog log).filterMap registryWarning? = log.registryWarnings := by
  simp [ofLog, Log.registryWarnings, List.filterMap_map, Function.comp_def,
    registryWarning?]

namespace Hooks

theorem source_of_mem_execute_log {hooks : Hooks} {point : HookPoint}
    {payload : Payload} {record : LogRecord}
    (hrecord : record ∈ (hooks.execute point payload).log) :
    record.source = .hooks := by
  rw [execute, callAll_eq] at hrecord
  obtain ⟨call, -, hcall⟩ := List.mem_filterMap.mp hrecord
  obtain ⟨reason, -, rfl⟩ := Option.map_eq_some_iff.mp hcall
  rfl

/-- Hooks add records to the log, but none in the name of the registry. -/
theorem registryWarnings_observe {hooks : Hooks} {events : List Event}
    (hquiet : (hooks.observe events).ended = none) :
    (hooks.observe events).log.registryWarnings =
      events.filterMap Event.registryWarning? := by
  induction events generalizing hooks with
  | nil => rfl
  | cons event rest ih =>
      cases event with
      | logged record =>
          have hrest := ih hquiet
          simp only [Log.registryWarnings] at hrest ⊢
          simp only [observe, List.filterMap_cons, Event.registryWarning?,
            hrest]
      | reached point payload =>
          have hexecution :
              (hooks.execute point payload).log.registryWarnings = [] := by
            apply Log.registryWarnings_eq_nil
            intro record hrecord
            right
            rw [source_of_mem_execute_log hrecord]
            decide
          cases hended : (hooks.execute point payload).ended with
          | some raised => simp [observe, hended] at hquiet
          | none =>
              simp only [observe, hended, Option.isSome_none,
                Bool.false_eq_true, if_false] at hquiet ⊢
              simp only [Log.registryWarnings_append, hexecution, ih hquiet,
                List.filterMap_cons, Event.registryWarning?, List.nil_append]

end Hooks

/-! ## Warnings about an element -/

namespace Registry

private theorem component_of_validator? {registry : Registry} {name : String}
    {validator : Validator}
    (hvalidator : registry.validator? name = some validator) :
    validator.component = name := by
  obtain ⟨schemas, _, rfl⟩ := Option.map_eq_some_iff.mp hvalidator
  rfl

/-- The properties of an element that are accepted, whatever the rules say. -/
def accepted? (registry : Registry) : Node → Option AcceptedProps
  | .element tag props _ =>
    (registry.validator? tag).bind fun validator =>
      (validator.validate (checkedProps props)).toOption
  | _ => none

theorem accepted?_of_validator? {registry : Registry} {tag : String}
    {validator : Validator}
    (hvalidator : registry.validator? tag = some validator) (props : Props)
    (children : List Node) :
    registry.accepted? (.element tag props children) =
      (validator.validate (checkedProps props)).toOption := by
  rw [accepted?, hvalidator]
  rfl

/-- The messages about the properties of a node that are not declared. -/
def unknownMessages (registry : Registry) (node : Node) : List String :=
  (registry.accepted? node).elim [] fun accepted =>
    accepted.unknown.map (Validator.unknownMessage node.label)

/-- The node has properties that are not declared, and breaks a rule. -/
def conceals (registry : Registry) (node : Node) : Bool :=
  (registry.accepted? node).any fun accepted =>
    !accepted.unknown.isEmpty &&
      (brokenRule node.label accepted.props registry.rules).isSome

private theorem unknownMessages_ne_nil {registry : Registry} {node : Node}
    (hconceals : registry.conceals node = true) :
    registry.unknownMessages node ≠ [] := by
  cases haccepted : registry.accepted? node with
  | none => simp [conceals, haccepted] at hconceals
  | some accepted =>
      simp only [conceals, haccepted, Option.any_some, Bool.and_eq_true,
        Bool.not_eq_true', List.isEmpty_eq_false_iff] at hconceals
      simp [unknownMessages, haccepted, hconceals.1]

end Registry

namespace Check

section Registered

variable {registry : Registry} {tag : String} {validator : Validator}
  (hvalidator : registry.validator? tag = some validator) (props : Props)
  (children : List Node)

include hvalidator

/-- The registry warns of undeclared properties whether or not a rule is
broken. -/
theorem registryWarnings_run :
    (run registry tag props).log.registryWarnings =
      registry.unknownMessages (.element tag props children) := by
  have hcomponent := Registry.component_of_validator? hvalidator
  have hlog : (run registry tag props).log =
      validator.log (checkedProps props) := by
    rw [run, input_eq_checkedProps, Registry.validateLog, hvalidator]
    rfl
  rw [hlog, Registry.unknownMessages,
    Registry.accepted?_of_validator? hvalidator]
  cases hvalidate : validator.validate (checkedProps props) with
  | error failure =>
      simp [Validator.log, hvalidate, Log.registryWarnings, Except.toOption]
  | ok accepted =>
      simp [Validator.log, hvalidate, Log.registryWarnings, hcomponent,
        LogRecord.registryWarning?, Node.label, List.filterMap_map,
        Function.comp_def, Except.toOption]

/-- The result lists them only if no rule is broken. -/
theorem warnings_run :
    (run registry tag props).warnings =
      if registry.conceals (.element tag props children) then []
      else registry.unknownMessages (.element tag props children) := by
  have hverdict : (run registry tag props).verdict =
      validator.validate (checkedProps props) >>=
        registry.applyRules tag (.record (checkedProps props)) := by
    rw [run, input_eq_checkedProps, Registry.validate, hvalidator]
    rfl
  rw [warnings, hverdict, Registry.conceals, Registry.unknownMessages,
    Registry.accepted?_of_validator? hvalidator]
  cases hvalidate : validator.validate (checkedProps props) with
  | error failure => rfl
  | ok accepted =>
      cases hbroken : Registry.brokenRule tag accepted.props registry.rules with
      | none =>
          simp [bind, Except.bind, Registry.applyRules, hbroken,
            Except.toOption, Node.label, run]
      | some found =>
          -- A broken rule conceals something only if something is unknown.
          cases hunknown : accepted.unknown with
          | nil =>
              simp [bind, Except.bind, Registry.applyRules, hbroken,
                Except.toOption, hunknown]
          | cons prop props =>
              simp [bind, Except.bind, Registry.applyRules, hbroken,
                Except.toOption, Node.label, hunknown]

end Registered

theorem ofNode_eq_none_or (registry : Registry) (node : Node) :
    (ofNode registry node = none ∧ registry.accepted? node = none) ∨
      ∃ tag props children validator, node = .element tag props children ∧
        registry.validator? tag = some validator ∧
        ofNode registry node = some (run registry tag props) := by
  cases node with
  | conditional condition children => exact Or.inl ⟨rfl, rfl⟩
  | loop item source children => exact Or.inl ⟨rfl, rfl⟩
  | element tag props children =>
      cases hget : Entries.get? registry.components tag with
      | none =>
          left
          simp [ofNode, Registry.has, Entries.has, Registry.accepted?,
            Registry.validator?, hget]
      | some schemas =>
          right
          refine ⟨tag, props, children, ⟨tag, schemas⟩, rfl, ?_, ?_⟩
          · simp [Registry.validator?, hget]
          · simp [ofNode, Registry.has, Entries.has, hget]

/-- The records of the checks of nodes, as far as they are warnings of the
registry. -/
theorem registryWarnings_checks (registry : Registry) (nodes : List Node) :
    (nodes.filterMap (ofNode registry)).flatMap
        (fun check => check.log.registryWarnings) =
      nodes.flatMap registry.unknownMessages := by
  induction nodes with
  | nil => rfl
  | cons node rest ih =>
      rw [List.filterMap_cons, List.flatMap_cons, ← ih]
      rcases ofNode_eq_none_or registry node with
        ⟨hnone, haccepted⟩ | ⟨tag, props, children, validator, rfl, hvalidator,
          hsome⟩
      · simp [hnone, Registry.unknownMessages, haccepted]
      · rw [hsome, ← registryWarnings_run hvalidator props children]
        rfl

theorem warnings_checks (registry : Registry) (nodes : List Node) :
    (nodes.filterMap (ofNode registry)).flatMap warnings =
      (nodes.filter fun node => !registry.conceals node).flatMap
        registry.unknownMessages := by
  induction nodes with
  | nil => rfl
  | cons node rest ih =>
      rw [List.filterMap_cons, List.filter_cons]
      rcases ofNode_eq_none_or registry node with
        ⟨hnone, haccepted⟩ | ⟨tag, props, children, validator, rfl, hvalidator,
          hsome⟩
      · have hshown : registry.conceals node = false := by
          simp [Registry.conceals, haccepted]
        simp [hnone, hshown, Registry.unknownMessages, haccepted, ih]
      · have hwarnings := warnings_run hvalidator props children
        cases hconceals : registry.conceals (.element tag props children) with
        | true => simp [hsome, hwarnings, hconceals, ih]
        | false => simp [hsome, hwarnings, hconceals, ih]

end Check

/-! ## Warnings in a compilation -/

theorem Program.level_of_mem_log {data : Json} {program : Program} {log : Log}
    (hload : loadLogged data = .ok (program, log)) {record : LogRecord}
    (hrecord : record ∈ log) : record.level = .debug := by
  obtain ⟨form, _, hform⟩ := Except.bind_eq_ok_iff.mp hload
  -- Only a program that is given as items is reported.
  cases form with
  | serialized found =>
      obtain ⟨_, _, hfound⟩ := Except.bind_eq_ok_iff.mp hform
      obtain ⟨_, rfl⟩ := Prod.mk.inj (Except.ok.inj hfound)
      contradiction
  | parts entries =>
      obtain ⟨_, _, hfound⟩ := Except.bind_eq_ok_iff.mp hform
      obtain ⟨_, rfl⟩ := Prod.mk.inj (Except.ok.inj hfound)
      contradiction
  | items list =>
      obtain ⟨_, _, hfound⟩ := Except.bind_eq_ok_iff.mp hform
      obtain ⟨_, rfl⟩ := Prod.mk.inj (Except.ok.inj hfound)
      rw [List.mem_singleton.mp hrecord]

theorem Source.registryWarnings_load {source : Source} {program : Program}
    {log : Log} (hload : source.load = .ok (program, log)) :
    log.registryWarnings = [] := by
  apply Log.registryWarnings_eq_nil
  intro record hrecord
  left
  cases source with
  | program given =>
      obtain ⟨_, rfl⟩ := Prod.mk.inj (Except.ok.inj hload)
      contradiction
  | data given => exact Program.level_of_mem_log hload hrecord

theorem Definition.level_of_mem_inferenceLog {definition : Definition}
    {record : LogRecord} (hrecord : record ∈ definition.inferenceLog) :
    record.level = .debug := by
  obtain ⟨parameter, _, rfl⟩ := List.mem_map.mp hrecord
  rfl

namespace Compiler

theorem registryWarnings_defineLog (compiler : Compiler)
    (definition : Definition) :
    (compiler.defineLog definition).registryWarnings = [] := by
  have hschemas : (compiler.schemasLog definition).registryWarnings = [] := by
    unfold schemasLog
    cases compiler.declaredFor definition with
    | some schemas => rfl
    | none =>
        apply Log.registryWarnings_eq_nil
        intro record hrecord
        exact Or.inl (Definition.level_of_mem_inferenceLog hrecord)
  have hregister : (compiler.registry.registerLog
      definition.name).registryWarnings = [] := by
    unfold Registry.registerLog
    split <;> rfl
  rw [defineLog, Log.registryWarnings_append, Log.registryWarnings_append,
    hschemas, hregister]
  rfl

theorem registryWarnings_defineEvents (compiler : Compiler)
    (definitions : List Definition) :
    (compiler.defineEvents definitions).filterMap Event.registryWarning? =
      [] := by
  induction definitions generalizing compiler with
  | nil => rfl
  | cons definition rest ih =>
      rw [defineEvents, List.filterMap_append,
        Event.filterMap_registryWarning?_ofLog, registryWarnings_defineLog,
        List.nil_append, List.filterMap_cons, ih]
      rfl

theorem registryWarnings_checkEvents (strict : Bool) (checks : List Check) :
    (checks.flatMap (Check.events strict)).filterMap Event.registryWarning? =
      checks.flatMap fun check => check.log.registryWarnings := by
  induction checks with
  | nil => rfl
  | cons check rest ih =>
      rw [List.flatMap_cons, List.filterMap_append, ih, List.flatMap_cons,
        Check.events, List.filterMap_append,
        Event.filterMap_registryWarning?_ofLog]
      cases check.failure? with
      | none => simp
      | some failure =>
          cases strict with
          | true => simp [Event.registryWarning?]
          | false =>
              simp [Event.registryWarning?, Check.toleratedLog, Event.ofLog,
                LogRecord.registryWarning?]

theorem registryWarnings_opening (compiler : Compiler) (program : Program)
    (checks : List Check) :
    (compiler.opening program checks).filterMap Event.registryWarning? =
      checks.flatMap fun check => check.log.registryWarnings := by
  rw [opening, List.cons_append, List.cons_append, List.filterMap_cons,
    List.filterMap_cons, List.filterMap_append, registryWarnings_defineEvents,
    registryWarnings_checkEvents]
  rfl

theorem registryWarnings_generationLog (compiler : Compiler)
    (program : Program) :
    (compiler.generationLog program).registryWarnings = [] := by
  apply Log.registryWarnings_eq_nil
  intro record hrecord
  rcases List.mem_append.mp hrecord with hscan | hgenerated
  · obtain ⟨failure, _, rfl⟩ := List.mem_map.mp hscan
    right
    simp
  · left
    rcases List.mem_append.mp hgenerated with hinferred | hsize
    · unfold Generator.inferenceLog at hinferred
      split at hinferred
      · contradiction
      · obtain ⟨definition, _, hdefinition⟩ := List.mem_flatMap.mp hinferred
        exact Definition.level_of_mem_inferenceLog hdefinition
    · rw [List.mem_singleton.mp hsize]

theorem registryWarnings_closing (compiler : Compiler) (program : Program)
    (conclusion : Except Stop (List Check)) :
    (compiler.closing program conclusion).filterMap Event.registryWarning? =
      [] := by
  cases conclusion with
  | error stop => rfl
  | ok checks =>
      rw [closing, List.filterMap_append,
        Event.filterMap_registryWarning?_ofLog,
        registryWarnings_generationLog]
      rfl

end Compiler

namespace Session

variable {session : Session} {source : Source} {program : Program} {log : Log}

private theorem log_compile (huncut : session.Uncut source)
    (hload : source.load = .ok (program, log)) :
    (session.compile source).2.log = session.log ++
      (session.hooks.observe
        (Event.ofLog log ++ session.compiler.history program)).log := by
  rw [compile_of_load huncut hload]
  rfl

/-- What the registry warns of in a compilation is what it warns of in the
checks. -/
theorem registryWarnings_history (compiler : Compiler) (program : Program) :
    (compiler.history program).filterMap Event.registryWarning? =
      (Check.performed compiler.settings.strict
        (compiler.reachableChecks program)).flatMap
          fun check => check.log.registryWarnings := by
  rw [Compiler.history_eq, List.filterMap_append,
    Compiler.registryWarnings_opening, Compiler.registryWarnings_closing,
    List.append_nil]

/-- A lenient compilation reports what the registry has warned of, in the same
order, except about elements that break a rule; so the two agree unless such an
element has properties that are not declared.  A schema with a bound that is no
number may interrupt it instead.  No hook cuts it off. -/
theorem unknown_props_reported_iff (huncut : session.Uncut source)
    (hload : source.load = .ok (program, log))
    (hlenient : session.compiler.settings.strict = false) :
    let registry := (session.compile source).2.compiler.registry
    (∃ result reported new,
      (session.compile source).1 = .ok result ∧
        result.warnings =
          reported ++ (Binding.scan program).warnings.map Failure.describe ∧
        (session.compile source).2.log = session.log ++ new ∧
        Log.registryWarnings new =
          program.nodes.flatMap registry.unknownMessages ∧
        reported =
          (program.nodes.filter fun node => !registry.conceals node).flatMap
            registry.unknownMessages ∧
        (Log.registryWarnings new = reported ↔
          ∀ node ∈ program.nodes, registry.conceals node = false)) ∨
      session.compiler.hasNumericBounds = false ∧
        ∃ comparison,
          (session.compile source).1 = .error (.interrupted comparison) := by
  intro registry
  have hregistry : registry =
      (session.compiler.defineAll program.definitions).registry :=
    registry_compile huncut hload
  have hpasses := Compiler.no_error_of_lenient hlenient
    (session.compiler.reachableChecks program)
  cases hcomparison : session.compiler.interruptingComparison? program with
  | some comparison =>
      right
      refine ⟨Compiler.hasNumericBounds_of_interrupting hcomparison,
        comparison, ?_⟩
      rw [compile_fst huncut]
      exact Compiler.answer_of_comparison hload hpasses hcomparison
  | none =>
      left
      obtain ⟨hanswer, _⟩ :=
        Compiler.answer_of_passing hload hpasses hcomparison
      have hchecks : session.compiler.reachableChecks program =
          program.nodes.filterMap (Check.ofNode registry) := by
        rw [Compiler.reachableChecks, Check.interrupted_fst_of_none hcomparison,
          hregistry]
      have hwarned : Log.registryWarnings (session.hooks.observe
          (Event.ofLog log ++ session.compiler.history program)).log =
            program.nodes.flatMap registry.unknownMessages := by
        rw [Hooks.registryWarnings_observe ((uncut_iff hload).mp huncut),
          List.filterMap_append,
          Event.filterMap_registryWarning?_ofLog,
          Source.registryWarnings_load hload, List.nil_append,
          registryWarnings_history, Check.performed_of_no_error hpasses,
          hchecks, Check.registryWarnings_checks]
      refine ⟨_, (program.nodes.filterMap (Check.ofNode registry)).flatMap
        Check.warnings, _, (compile_fst huncut).trans hanswer, ?_,
        log_compile huncut hload, hwarned, Check.warnings_checks registry _, ?_⟩
      · rw [← hchecks]
        rfl
      · rw [hwarned, Check.warnings_checks]
        exact List.flatMap_filter_eq_iff
          (fun node => Registry.unknownMessages_ne_nil) program.nodes

/-- A session with labelled badges, of which none may be hidden. -/
def badgeSession : Session :=
  { compiler :=
      { settings := {}
        registry :=
          { components :=
              [("Badge", [("label", Builtin.requiredText),
                ("hidden", .boolean {})])]
            rules := [("visible", fun name props =>
              if Entries.has props "hidden" then some (name ++ " is hidden")
              else none)] } } }

/-- Three badges: one has a colour, one is hidden, and one has a size but no
label. -/
def assortedBadges : Program :=
  { body :=
      [.element "Badge" [("label", .text "New"), ("color", .text "red")] [],
        .element "Badge"
          [("label", .text "Old"), ("hidden", .expression (.of "past"))] [],
        .element "Badge" [("size", .text "small")] []] }

theorem assortedBadges_reported :
    ∃ result new,
      (badgeSession.compile (.program assortedBadges)).1 = .ok result ∧
        (badgeSession.compile (.program assortedBadges)).2.log = new ∧
        result.warnings = Log.registryWarnings new ∧
        Log.registryWarnings new =
          ["Unknown prop 'color' passed to component 'Badge'"] := by
  have hload : (Source.program assortedBadges).load =
      .ok (assortedBadges, []) := rfl
  have hlenient : badgeSession.compiler.settings.strict = false := rfl
  have hnumeric : badgeSession.compiler.hasNumericBounds = true := by
    decide +kernel
  have huncut : badgeSession.Uncut (.program assortedBadges) :=
    uncut_without_hooks _ _
  rcases unknown_props_reported_iff huncut hload hlenient with
    ⟨result, reported, new, hresult, hwarnings, hlog, hwarned, _, hagree⟩ |
      ⟨hbounds, _⟩
  · have hsame : Log.registryWarnings new = reported :=
      hagree.mpr (by decide +kernel)
    have hscan : (Binding.scan assortedBadges).warnings = [] := by
      decide +kernel
    refine ⟨result, new, hresult, hlog, ?_, ?_⟩
    · rw [hwarnings, hsame, hscan]
      simp
    · rw [hwarned]
      decide +kernel
  · rw [hnumeric] at hbounds
    contradiction

/-- A badge that is hidden and has a colour. -/
def hiddenBadge : Program :=
  { body := [.element "Badge"
      [("label", .text "Old"), ("hidden", .expression (.of "past")),
        ("color", .text "red")] []] }

/-- The registry warns of the colour, and the result does not mention it. -/
theorem hidden_color_unreported :
    let ended := badgeSession.compile (.program hiddenBadge)
    ended.2.log.registryWarnings =
        ["Unknown prop 'color' passed to component 'Badge'"] ∧
      ended.1.toOption.map CompilationResult.warnings = some [] := by
  decide +kernel

end Session

end ViewCompiler
