import ViewCompiler.Proofs.Compilation.Refusals
import ViewCompiler.Proofs.Compilation.Repetition
import ViewCompiler.Proofs.Component.ObjectCheck

/-!
# Elements that are given every parameter

The schemas of a defined component are read off the body, and an element is
checked against them with its directives left out.  An expression passes as any
parameter, whatever shape the body suggests for it.  A parameter that bears the
name of a directive is never supplied, so it passes only if it may be left out:
if it has a default, or some condition in the body refers to it.
-/

namespace ViewCompiler

namespace Usage

/-- The node depends on a condition that refers to the name. -/
def guards (name : String) : Node → Bool
  | .conditional condition _ => refersTo name condition.text
  | _ => false

private theorem compoundEvidence_ne_conditional (name text : String) :
    compoundEvidence name text ≠ some .conditional := by
  unfold compoundEvidence
  dsimp only
  repeat' split
  all_goals simp

theorem propEvidence_ne_conditional (name key : String) (value : PropValue) :
    propEvidence name key value ≠ some .conditional := by
  cases value with
  | literal value => simp [propEvidence]
  | expression e =>
      have hcompound := compoundEvidence_ne_conditional name e.text
      unfold propEvidence
      dsimp only
      repeat' split
      all_goals simp [hcompound]

theorem conditional_mem_nodeEvidence_iff {name : String} {node : Node} :
    Evidence.conditional ∈ nodeEvidence name node ↔
      guards name node = true := by
  cases node with
  | element tag props children =>
      simp [nodeEvidence, guards, propEvidence_ne_conditional]
  | conditional condition children => simp [nodeEvidence, guards]
  | loop item source children => simp [nodeEvidence, guards]

private theorem conditionalUsage_profile (name : String) (body : List Node)
    (hasDefault : Bool) :
    (profile name body hasDefault).conditionalUsage =
      (Node.walkAll body).any (guards name) := by
  rw [Bool.eq_iff_iff, List.any_eq_true]
  simp only [profile, evidence, List.contains_iff_mem, List.mem_flatMap,
    conditional_mem_nodeEvidence_iff]

end Usage

/-! ## Parameters that have to be given -/

namespace Schema

@[simp] theorem required_optional (schema : Schema) (default : Value) :
    (schema.optional default).required = false := by
  cases schema <;> rfl

@[simp] theorem required_require (schema : Schema) :
    schema.require.required = true := by
  cases schema <;> rfl

end Schema

theorem UsageProfile.required_schema (profile : UsageProfile)
    (default : Value) :
    (profile.schema default).required =
      !(profile.hasDefaultValue || profile.conditionalUsage) := by
  unfold schema
  cases profile.hasDefaultValue || profile.conditionalUsage with
  | true => exact Schema.required_optional _ _
  | false => exact Schema.required_require _

namespace Definition

def lastParameter? (definition : Definition) (name : String) :
    Option Parameter :=
  definition.params.reverse.find? fun parameter => parameter.name == name

/-- The property has to be given to the component: the last parameter of that
name has no default, and no condition of the body refers to it. -/
def Demands (definition : Definition) (prop : String) : Prop :=
  ∃ parameter ∈ definition.lastParameter? prop, parameter.default = none ∧
    ∀ node ∈ Node.walkAll definition.body, ¬Usage.guards prop node

instance (definition : Definition) (prop : String) :
    Decidable (definition.Demands prop) :=
  inferInstanceAs (Decidable (∃ parameter ∈ definition.lastParameter? prop,
    parameter.default = none ∧
      ∀ node ∈ Node.walkAll definition.body, ¬Usage.guards prop node))

private theorem name_of_lastParameter? {definition : Definition} {name : String}
    {parameter : Parameter}
    (hlast : definition.lastParameter? name = some parameter) :
    parameter.name = name := by
  simpa using List.find?_some hlast

theorem get?_inferredSchemas (definition : Definition) (prop : String) :
    Entries.get? definition.inferredSchemas prop =
      (definition.lastParameter? prop).map fun parameter =>
        (definition.usage parameter).schema parameter.defaultValue := by
  rw [inferredSchemas, Entries.ofPairs, Entries.get?_setAll, ← List.map_reverse,
    List.find?_map]
  simp [lastParameter?, Entries.get?, Function.comp_def]

theorem required_usage_schema (definition : Definition)
    (parameter : Parameter) :
    ((definition.usage parameter).schema parameter.defaultValue).required =
        true ↔
      parameter.default = none ∧
        ∀ node ∈ Node.walkAll definition.body,
          ¬Usage.guards parameter.name node := by
  have hconditional := Usage.conditionalUsage_profile parameter.name
    definition.body parameter.default.isSome
  rw [UsageProfile.required_schema, usage, hconditional]
  simp [Usage.profile]

theorem demands_iff {definition : Definition} {prop : String} :
    definition.Demands prop ↔ ∃ schema,
      Entries.get? definition.inferredSchemas prop = some schema ∧
        schema.required = true := by
  rw [get?_inferredSchemas]
  cases hlast : definition.lastParameter? prop with
  | none => simp [Demands, hlast]
  | some parameter =>
      have hname := name_of_lastParameter? hlast
      simp [Demands, hlast, required_usage_schema, hname]

end Definition

/-! ## Elements that are given them -/

theorem get?_checkedProps (props : Props) (key : String) :
    Entries.get? (checkedProps props) key =
      if key ∈ Name.directives then none
      else (Entries.get? props key).map PropValue.beforeRendering := by
  induction props with
  | nil => simp [checkedProps, Entries.get?]
  | cons entry rest ih =>
      obtain ⟨name, value⟩ := entry
      rw [checkedProps_cons]
      by_cases heq : name = key
      · subst heq
        by_cases hname : name ∈ Name.directives
        · simp [hname, ih]
        · simp [hname, Entries.get?]
      · have hrest : Entries.get? ((name, value) :: rest) key =
            Entries.get? rest key := by
          rw [Entries.get?, if_neg heq]
        rw [hrest, ← ih]
        split
        · rfl
        · rw [Entries.get?, if_neg heq]

theorem Schema.validate_runtime (schema : Schema) (source path : String) :
    schema.validate (.runtime source) path =
      .unchanged (.runtime source) :=
  rfl

theorem Schema.validate_missing_isOk_iff {schema : Schema} {path : String} :
    (∃ accepted, schema.validate .missing path = .ok accepted) ↔
      schema.required = false := by
  rw [← Schema.accepts_iff_exists_ok path, Schema.accepts_absent_iff rfl,
    Bool.not_eq_true]

/-- An expression passes as any property, but not as a directive, which does not
reach the check. -/
theorem supplied_isOk_iff {props : Props} {prop : String} {e : Expression}
    (hsupplied : Entries.get? props prop = some (.expression e))
    (schema : Schema) :
    (∃ accepted,
      schema.validate (Value.entry (checkedProps props) prop) prop =
        .ok accepted) ↔
      (prop ∈ Name.directives → schema.required = false) := by
  unfold Value.entry
  rw [get?_checkedProps, hsupplied]
  by_cases hprop : prop ∈ Name.directives
  · rw [if_pos hprop]
    simpa [hprop] using Schema.validate_missing_isOk_iff
  · simp [hprop, PropValue.beforeRendering, Schema.validate_runtime,
      Verdict.unchanged]

namespace Definition

variable {definition : Definition} {props : Props}
  (hsupplied : ∀ parameter ∈ definition.params, ∃ e,
    Entries.get? props parameter.name = some (.expression e))

include hsupplied

private theorem supplied_of_mem_inferredSchemas {prop : String}
    {schema : Schema} (hmem : (prop, schema) ∈ definition.inferredSchemas) :
    ∃ e, Entries.get? props prop = some (.expression e) := by
  obtain ⟨parameter, hparameter, heq⟩ :=
    List.mem_map.mp (Entries.mem_ofPairs hmem)
  obtain rfl : parameter.name = prop := (Prod.mk.inj heq).1
  exact hsupplied parameter hparameter

theorem accepts_supplied_iff {prop : String} {schema : Schema}
    (hmem : (prop, schema) ∈ definition.inferredSchemas) :
    (∃ accepted,
      schema.validate (Value.entry (checkedProps props) prop) prop =
        .ok accepted) ↔
      ¬(prop ∈ Name.directives ∧ definition.Demands prop) := by
  obtain ⟨e, hgiven⟩ := supplied_of_mem_inferredSchemas hsupplied hmem
  have hget : Entries.get? definition.inferredSchemas prop = some schema :=
    Entries.get?_eq_some_of_mem (Entries.nodup_keys_ofPairs _) hmem
  rw [supplied_isOk_iff hgiven, demands_iff]
  simp [hget]

/-- An element that is given every parameter passes unless a directive is
demanded. -/
theorem checkProps_supplied_isOk_iff :
    (∃ found, Validator.checkProps definition.name definition.inferredSchemas
        (checkedProps props) = .ok found) ↔
      ∀ directive ∈ Name.directives, ¬definition.Demands directive := by
  rw [Validator.checkProps_isOk_iff]
  constructor
  · intro haccepts directive hdirective hdemands
    obtain ⟨schema, hget, _⟩ := demands_iff.mp hdemands
    have hmem := Entries.mem_of_get?_eq_some hget
    exact (accepts_supplied_iff hsupplied hmem).mp
      (haccepts (directive, schema) hmem) ⟨hdirective, hdemands⟩
  · intro hnone declared hmem
    refine (accepts_supplied_iff hsupplied hmem).mpr ?_
    rintro ⟨hdirective, hdemands⟩
    exact hnone _ hdirective hdemands

private theorem demanded_of_checkProps_supplied {failure : Failure}
    (hrefused : Validator.checkProps definition.name
      definition.inferredSchemas (checkedProps props) = .error failure) :
    ∃ directive ∈ Name.directives, definition.Demands directive ∧
      failure.prop = some directive := by
  obtain ⟨prop, hprop, before, schema, after, cause, hschemas, _, hcause⟩ :=
    Validator.firstRefused_of_checkProps_eq_error hrefused
  have hmem : (prop, schema) ∈ definition.inferredSchemas := by
    rw [hschemas]
    simp
  have hfails := mt (accepts_supplied_iff hsupplied hmem).mpr
    (by simp [hcause])
  obtain ⟨hdirective, hdemands⟩ := not_not.mp hfails
  exact ⟨prop, hdirective, hdemands, hprop⟩

end Definition

namespace Registry

section Rules

variable {registry : Registry} {name : String} {schemas : Entries Schema}
  (hrules : registry.rules = [])
  (hget : Entries.get? registry.components name = some schemas)

include hrules hget

/-- Where no rules hold, an element is judged by its properties alone. -/
theorem validate_of_no_rules (given : Entries Value) :
    registry.validate name (some given) =
      (⟨name, schemas⟩ : Validator).validate given := by
  have hkeeps (value : Value) (accepted : AcceptedProps) :
      registry.applyRules name value accepted = .ok accepted := by
    rw [applyRules, hrules]
    rfl
  rw [validate, validator?, hget]
  simp only [Option.map_some, Option.getD_some, hkeeps]
  cases (⟨name, schemas⟩ : Validator).validate given with
  | error failure => rfl
  | ok accepted => rfl

variable {props : Props} (children : List Node)

private theorem refusals_of_checkProps_ok {found : Entries Value × List String}
    (hok : Validator.checkProps name schemas (checkedProps props) =
      .ok found) :
    registry.refusals [.element name props children] = [] := by
  have hvalidate := validate_of_no_rules hrules hget (checkedProps props)
  rw [Validator.validate, hok] at hvalidate
  simp [refusals, refusal?, hvalidate, bind, Except.bind, pure, Except.pure]

private theorem refusals_of_checkProps_error {failure : Failure}
    (herror : Validator.checkProps name schemas (checkedProps props) =
      .error failure) :
    registry.refusals [.element name props children] = [(name, failure)] := by
  have hhas : registry.has name = true := by
    rw [has, Entries.has, hget, Option.isSome_some]
  have hvalidate := validate_of_no_rules hrules hget (checkedProps props)
  rw [Validator.validate, herror] at hvalidate
  simp [refusals, refusal?, hhas, hvalidate, bind, Except.bind]

end Rules

private theorem refusals_supplied {registry : Registry}
    {definition : Definition} {props : Props} (hrules : registry.rules = [])
    (hget : Entries.get? registry.components definition.name =
      some definition.inferredSchemas)
    (hsupplied : ∀ parameter ∈ definition.params, ∃ e,
      Entries.get? props parameter.name = some (.expression e))
    (children : List Node) :
    let refused :=
      registry.refusals [.element definition.name props children]
    (refused = [] ↔
      ∀ directive ∈ Name.directives, ¬definition.Demands directive) ∧
    ∀ refusal ∈ refused, ∃ directive ∈ Name.directives,
      definition.Demands directive ∧ refusal.2.prop = some directive := by
  intro refused
  rw [← Definition.checkProps_supplied_isOk_iff hsupplied]
  cases hchecked : Validator.checkProps definition.name
      definition.inferredSchemas (checkedProps props) with
  | ok found =>
      have hnone : refused = [] :=
        refusals_of_checkProps_ok hrules hget children hchecked
      simp [hnone]
  | error failure =>
      have hone : refused = [(definition.name, failure)] :=
        refusals_of_checkProps_error hrules hget children hchecked
      have hdemanded :=
        Definition.demanded_of_checkProps_supplied hsupplied hchecked
      simpa [hone] using hdemanded

end Registry

namespace Compiler

theorem rules_defineAll (compiler : Compiler)
    (definitions : List Definition) :
    (compiler.defineAll definitions).registry.rules =
      compiler.registry.rules := by
  rw [defineAll_eq]

theorem schemasFor_of_undeclared {compiler : Compiler}
    {definition : Definition}
    (hundeclared :
      Entries.get? compiler.declared definition.name = none) :
    compiler.schemasFor definition = definition.inferredSchemas := by
  rw [schemasFor, declaredFor, hundeclared]
  rfl

end Compiler

namespace Session

/-- An element of a defined component that is given an expression for every
parameter of the last definition is refused only for a directive that the
definition demands, whatever its body and whatever else the element is given.
Schemas are not declared for the component, no rules hold, and no hook cuts the
compilation off. -/
theorem supplied_element_passes_iff {session : Session} {source : Source}
    {program : Program} {log : Log} (huncut : session.Uncut source)
    (hload : source.load = .ok (program, log)) {definition : Definition}
    (hlast : program.lastDefinition? definition.name = some definition)
    (hundeclared :
      Entries.get? session.compiler.declared definition.name = none)
    (hrules : session.compiler.registry.rules = [])
    {props : Props} {children before after : List Node}
    (hnodes : program.nodes =
      before ++ .element definition.name props children :: after)
    (hsupplied : ∀ parameter ∈ definition.params, ∃ e,
      Entries.get? props parameter.name = some (.expression e)) :
    let registry := (session.compile source).2.compiler.registry
    let refused :=
      registry.refusals [.element definition.name props children]
    session.Reports source
        (registry.refusals before ++ refused ++ registry.refusals after) ∧
      (refused = [] ↔
        ∀ directive ∈ Name.directives, ¬definition.Demands directive) ∧
      ∀ refusal ∈ refused, ∃ directive ∈ Name.directives,
        definition.Demands directive ∧
          refusal.2.prop = some directive := by
  intro registry refused
  have hregistry : registry =
      (session.compiler.defineAll program.definitions).registry :=
    registry_compile huncut hload
  have hkept : registry.rules = [] := by
    rw [hregistry, Compiler.rules_defineAll, hrules]
  have hget : Entries.get? registry.components definition.name =
      some definition.inferredSchemas := by
    rw [hregistry, Compiler.get?_components_defineAll, hlast,
      Option.map_some, Compiler.schemasFor_of_undeclared hundeclared]
    rfl
  have hreports : session.Reports source (registry.refusals program.nodes) :=
    reports_refusals huncut hload
  refine ⟨?_, Registry.refusals_supplied hkept hget hsupplied children⟩
  rw [hnodes, Registry.refusals_append, ← List.singleton_append,
    Registry.refusals_append, ← List.append_assoc] at hreports
  exact hreports

/-- Fields are defined anew: they have a price, and two parameters that may be
left out bear names of directives. -/
def pricedField : Definition :=
  { name := "Field"
    params :=
      [{ name := "price" }, { name := "initial", default := some (.text "0") },
        { name := "bindDefault" }]
    body :=
      [.conditional (.of "bindDefault > 0")
        [.element "Text" [("text", .expression (.of "price.toFixed(2)"))]
          []]] }

def pricedFieldProps : Props :=
  [("wide", .text "yes"), ("price", .expression (.of "cost")),
    ("initial", .expression (.of "start")),
    ("bindDefault", .expression (.of "fallback"))]

def pricedFields : Program :=
  { definitions :=
      [{ name := "Field", params := [{ name := "label" }] }, pricedField]
    body := [.loop "cost" (.of "costs") [.element "Field" pricedFieldProps []]] }

/-- A session that starts with the built-in components. -/
def builtinSession : Session :=
  { compiler := { settings := {}, registry := Builtin.registry } }

theorem pricedFields_pass :
    (Compiler.create {}).1 = .ok builtinSession.compiler ∧
      (∀ directive ∈ Name.directives, ¬pricedField.Demands directive) ∧
      ∃ result,
        (builtinSession.compile (.program pricedFields)).1 = .ok result ∧
          result.failures = [] := by
  have hfree : ∀ directive ∈ Name.directives,
      ¬pricedField.Demands directive := by
    decide +kernel
  have hsupplied : ∀ parameter ∈ pricedField.params, ∃ e,
      Entries.get? pricedFieldProps parameter.name =
        some (.expression e) := by
    simp [pricedField, pricedFieldProps, Entries.get?]
  have hload : (Source.program pricedFields).load =
      .ok (pricedFields, []) := rfl
  have hlast : pricedFields.lastDefinition? pricedField.name =
      some pricedField := by
    decide
  have hundeclared : Entries.get? builtinSession.compiler.declared
      pricedField.name = none := rfl
  have hrules : builtinSession.compiler.registry.rules = [] := rfl
  have hnodes : pricedFields.nodes =
      (Node.walkAll pricedField.body ++ pricedFields.body) ++
        .element pricedField.name pricedFieldProps [] :: [] := rfl
  refine ⟨rfl, hfree, ?_⟩
  have huncut : builtinSession.Uncut (.program pricedFields) :=
    uncut_without_hooks _ _
  obtain ⟨hreports, hpasses, _⟩ := supplied_element_passes_iff huncut hload
    hlast hundeclared hrules hnodes hsupplied
  rw [hpasses.mpr hfree] at hreports
  obtain ⟨result, hresult, hfailures⟩ :=
    hreports.exists_result rfl (by decide +kernel)
  refine ⟨result, hresult, ?_⟩
  rw [hfailures]
  decide +kernel

/-- A field whose only parameter bears the name of a directive. -/
def startedField : Definition :=
  { name := "Field", params := [{ name := "initial" }] }

def startedFieldProps : Props :=
  [("initial", .expression (.of "start"))]

def startedFields : Program :=
  { definitions := [startedField]
    body := [.element "Field" startedFieldProps []] }

/-- The field is given its parameter, and refused for want of it. -/
theorem supplied_directive_refused :
    (∀ parameter ∈ startedField.params, ∃ e,
      Entries.get? startedFieldProps parameter.name =
        some (.expression e)) ∧
      (builtinSession.compile (.program startedFields)).1.toOption.map
          (fun result => result.failures.map
            fun failure => (failure.component, failure.message)) =
        some [(some "Field", "initial is required")] := by
  refine ⟨?_, ?_⟩
  · simp [startedField, startedFieldProps, Entries.get?]
  · decide +kernel

end Session

end ViewCompiler
