import ViewCompiler.Proofs.Compilation.DeclaredSchemas
import ViewCompiler.Proofs.Component.History
import ViewCompiler.Proofs.Output.TypeErasure

/-!
# Interfaces agree with checks

A typed module declares the parameters of a component in an interface, and the
registry checks the properties that its elements have.  The two read different
tables.  The generator has a copy of the registered schemas, and where it finds
none it reads them off the use of the parameters once more.  For the last
definition of a name both come to the same: the interface marks a parameter as
one that may be left out exactly if the check does not ask for it, and its type
is that of the schema it is checked against.
-/

namespace ViewCompiler

theorem Schema.validate_of_required {schema : Schema} {value : Value}
    (hrequired : schema.required = true) (habsent : value.isAbsent)
    (path : String) :
    schema.validate value path =
      .error
        { kind := .missingRequired, path, message := path ++ " is required" } := by
  rw [validate, Presence.judge_absent habsent]
  exact if_pos hrequired

/-! ## A component without one of its properties -/

namespace Validator

/-- One property is not given, and every other one that is declared is given as
something that is known at render time only. -/
structure LeavesOut (validator : Validator) (prop : String)
    (props : Entries Value) : Prop where
  absent : Entries.get? props prop = none
  deferred : ∀ other ∈ validator.propNames, other ≠ prop →
    ∃ source, Entries.get? props other = some (.runtime source)

/-- The type of a property; one that is not declared may be anything. -/
def propType (validator : Validator) (prop : String) : String :=
  ((Entries.get? validator.schemas prop).map fun schema =>
    schema.kind.typeScript).getD "any"

private theorem exists_leavesOut (validator : Validator) (prop : String) :
    ∃ props, validator.LeavesOut prop props := by
  let others := validator.propNames.filter (· != prop)
  refine ⟨others.map fun other => (other, .runtime other), ?_, ?_⟩
  · cases hget : Entries.get?
        (others.map fun other => (other, Value.runtime other)) prop with
    | none => rfl
    | some value =>
        have hmem := Entries.mem_of_get?_eq_some hget
        simp [others] at hmem
  · intro other hother hne
    have hkept : other ∈ others :=
      List.mem_filter.mpr ⟨hother, bne_iff_ne.mpr hne⟩
    exact ⟨other, Entries.get?_map_of_mem Value.runtime hkept⟩

namespace LeavesOut

variable {validator : Validator} {prop : String} {props : Entries Value}
  {declared : String × Schema} (hleaves : validator.LeavesOut prop props)

include hleaves

theorem entry_eq : Value.entry props prop = .missing := by
  rw [Value.entry, hleaves.absent]
  rfl

theorem exists_entry_eq (hdeclared : declared ∈ validator.schemas)
    (hne : declared.1 ≠ prop) :
    ∃ source, Value.entry props declared.1 = .runtime source := by
  have hname : declared.1 ∈ validator.propNames := List.mem_map_of_mem hdeclared
  obtain ⟨source, hget⟩ := hleaves.deferred declared.1 hname hne
  refine ⟨source, ?_⟩
  rw [Value.entry, hget]
  rfl

theorem accepts (hdeclared : declared ∈ validator.schemas)
    (hne : declared.1 ≠ prop) :
    declared.2.Accepts (Value.entry props declared.1) := by
  obtain ⟨source, hentry⟩ := hleaves.exists_entry_eq hdeclared hne
  rw [hentry]
  exact Schema.accepts_runtime declared.2 source

/-- Nothing that is given has to be compared. -/
theorem comparison?_eq_none :
    Schema.propertiesComparison? validator.schemas props = none := by
  apply (Schema.properties_checksInRow _).eq_none
  intro declared hdeclared
  apply Schema.comparison?_of_not_isConcrete
  by_cases heq : declared.1 = prop
  · rw [heq, hleaves.entry_eq]
    exact Bool.false_ne_true
  · obtain ⟨source, hentry⟩ := hleaves.exists_entry_eq hdeclared heq
    rw [hentry]
    exact Bool.false_ne_true

end LeavesOut
end Validator

namespace Registry

/-- The check of a component fails because it asks for the property. -/
def AsksFor (registry : Registry) (component prop : String)
    (props : Entries Value) : Prop :=
  ∃ failure, registry.validate component (some props) = .error failure ∧
    failure.kind = .missingRequired ∧ failure.path = prop

/-- The line of an interface declares the parameter in accordance with the
checks of the component. -/
def Declares (registry : Registry) (validator : Validator)
    (parameter line : String) : Prop :=
  ∃ optional : Bool,
    line = parameter ++ (if optional then "?" else "") ++ ": " ++
      validator.propType parameter ++ ";" ∧
    ∀ props, validator.LeavesOut parameter props →
      registry.comparison? validator.component (.record props) = none ∧
        (optional = true ↔
          ¬registry.AsksFor validator.component parameter props)

section Checks

variable {registry : Registry} {name prop : String} {schemas : Entries Schema}
  {props : Entries Value}
  (hget : Entries.get? registry.components name = some schemas)
  (hleaves : (Validator.mk name schemas).LeavesOut prop props)

include hget

private theorem asksFor_of_refused {cause : Failure}
    {before after : Entries Schema}
    {schema : Schema} (hschemas : schemas = before ++ (prop, schema) :: after)
    (hbefore : ∀ earlier ∈ before,
      earlier.2.Accepts (Value.entry props earlier.1))
    (hcause : schema.validate (Value.entry props prop) prop = .error cause)
    (hkind : cause.kind = .missingRequired) (hpath : cause.path = prop) :
    registry.AsksFor name prop props := by
  have hchecked := Validator.checkProps_of_refused name
    (fun earlier hmem => hbefore earlier hmem earlier.1) hcause after
  rw [← hschemas] at hchecked
  have hrefused : (Validator.mk name schemas).validate props =
      .error (Validator.locate name prop cause) := by
    rw [Validator.validate, hchecked]
    rfl
  exact ⟨_, validate_of_refused hget hrefused, hkind, hpath⟩

private theorem not_asksFor_of_accepts (haccepts : ∀ declared ∈ schemas,
      declared.2.Accepts (Value.entry props declared.1)) :
    ¬registry.AsksFor name prop props := by
  rintro ⟨failure, hfails, hkind, _⟩
  have hchecked : ∃ found,
      Validator.checkProps name schemas props = .ok found :=
    Validator.checkProps_isOk_iff.mpr
      fun declared hmem => haccepts declared hmem declared.1
  have hvalid : ∃ accepted,
      (Validator.mk name schemas).validate ((some props).getD []) =
        .ok accepted := by
    obtain ⟨found, hfound⟩ := hchecked
    rw [Option.getD_some, Validator.validate, hfound]
    exact ⟨_, rfl⟩
  obtain ⟨accepted, hok⟩ := hvalid
  -- What is left to fail is a rule, and that is a failure of another kind.
  rw [validate_of_accepted hget hok, applyRules] at hfails
  cases hbroken : brokenRule name accepted.props registry.rules with
  | none =>
      rw [hbroken] at hfails
      contradiction
  | some broken =>
      rw [hbroken] at hfails
      rw [← Except.error.inj hfails] at hkind
      contradiction

include hleaves

theorem asksFor_iff (hnames : (Entries.keys schemas).Nodup) :
    registry.AsksFor name prop props ↔
      ∃ schema, Entries.get? schemas prop = some schema ∧
        schema.required = true := by
  constructor
  · intro hasks
    by_contra hnone
    refine not_asksFor_of_accepts hget ?_ hasks
    intro declared hmem
    by_cases heq : declared.1 = prop
    · have hdeclared : Entries.get? schemas prop = some declared.2 :=
        heq ▸ Entries.get?_eq_some_of_mem hnames hmem
      rw [heq, hleaves.entry_eq, Schema.accepts_absent_iff rfl]
      intro hrequired
      exact hnone ⟨declared.2, hdeclared, hrequired⟩
    · exact hleaves.accepts hmem heq
  · rintro ⟨schema, hdeclared, hrequired⟩
    obtain ⟨before, after, hschemas⟩ :=
      List.append_of_mem (Entries.mem_of_get?_eq_some hdeclared)
    have hbefore : ∀ earlier ∈ before,
        earlier.2.Accepts (Value.entry props earlier.1) := by
      intro earlier hmem
      apply hleaves.accepts
      · rw [hschemas]
        exact List.mem_append_left _ hmem
      · -- Names are distinct, so the property is not among the earlier ones.
        intro heq
        rw [hschemas, Entries.keys, List.map_append, List.map_cons,
          List.nodup_append] at hnames
        exact hnames.2.2 earlier.1 (List.mem_map_of_mem hmem) prop
          List.mem_cons_self heq
    have habsent : (Value.entry props prop).isAbsent := by
      rw [hleaves.entry_eq]
      rfl
    have hcause := Schema.validate_of_required hrequired habsent prop
    exact asksFor_of_refused hget hschemas hbefore hcause rfl rfl

end Checks

private theorem propertyLine_declares {registry : Registry} {name : String}
    {schemas : Entries Schema}
    (hget : Entries.get? registry.components name = some schemas)
    (hnames : (Entries.keys schemas).Nodup) (parameter : String) :
    registry.Declares ⟨name, schemas⟩ parameter
      (Generator.propertyLine schemas parameter) := by
  let schema := (Entries.get? schemas parameter).getD (.any {})
  refine ⟨!schema.required, ?_, ?_⟩
  · have htype : Validator.propType ⟨name, schemas⟩ parameter =
        schema.kind.typeScript := by
      simp only [Validator.propType, schema]
      cases Entries.get? schemas parameter with
      | none => rfl
      | some found => rfl
    have hline : Generator.propertyLine schemas parameter =
        parameter ++ (if schema.required then "" else "?") ++ ": " ++
          schema.kind.typeScript ++ ";" := rfl
    rw [hline, htype]
    cases schema.required with
    | true => rfl
    | false => rfl
  · intro props hleaves
    refine ⟨?_, ?_⟩
    · have hvalidator : registry.validator? name = some ⟨name, schemas⟩ :=
        validator?_eq_some_iff.mpr hget
      simp only [comparison?, hvalidator]
      exact hleaves.comparison?_eq_none
    · rw [asksFor_iff hget hleaves hnames]
      simp only [schema]
      cases Entries.get? schemas parameter with
      | none => exact ⟨fun _ => by simp, fun _ => rfl⟩
      | some found => simp

end Registry

/-! ## The schemas of the generator -/

namespace Program

private theorem lastDefinition?_of_split {program : Program}
    {before after : List Definition} {definition : Definition}
    (hdefinitions : program.definitions = before ++ definition :: after)
    (hlast : ∀ later ∈ after, later.name ≠ definition.name) :
    program.lastDefinition? definition.name = some definition := by
  have hnone : after.reverse.find?
      (fun other => other.name == definition.name) = none := by
    simpa using hlast
  rw [lastDefinition?, hdefinitions]
  simp [List.find?_append, hnone]

end Program

namespace Compiler

variable {compiler : Compiler} {program : Program} {definition : Definition}

theorem inferredSchemas_of_schemasFor_eq_nil
    (hempty : compiler.schemasFor definition = []) :
    definition.inferredSchemas = [] := by
  rw [schemasFor] at hempty
  cases hdeclared : compiler.declaredFor definition with
  | none =>
      rw [hdeclared] at hempty
      exact hempty
  | some schemas =>
      rw [hdeclared, Option.getD_some] at hempty
      have hnonempty := (Option.filter_eq_some_iff.mp hdeclared).2
      rw [hempty] at hnonempty
      contradiction

private theorem nodup_keys_schemasFor
    (hdeclared : ∀ schemas,
      Entries.get? compiler.declared definition.name = some schemas →
        (Entries.keys schemas).Nodup) :
    (Entries.keys (compiler.schemasFor definition)).Nodup := by
  rw [schemasFor]
  cases hfound : compiler.declaredFor definition with
  | none => exact Entries.nodup_keys_ofPairs _
  | some schemas =>
      exact hdeclared schemas (Option.filter_eq_some_iff.mp hfound).1

section LastDefinition

variable (hlast : program.lastDefinition? definition.name = some definition)

include hlast

theorem get?_components_of_last :
    Entries.get? (compiler.defineAll program.definitions).registry.components
        definition.name = some (compiler.schemasFor definition) := by
  rw [get?_components_defineAll, hlast]
  rfl

/-- The copy of the registered schemas is empty only where nothing can be read
off the use of the parameters either. -/
theorem schemasFor_generator :
    ((compiler.defineAll program.definitions).generator program).schemasFor
        definition = compiler.schemasFor definition := by
  have hname : definition.name ∈ Entries.keys (definitionsByName program) := by
    have hdefined : definition ∈ program.definitions :=
      List.mem_reverse.mp (List.mem_of_find?_eq_some hlast)
    rw [← Entries.has_iff_mem_keys]
    exact has_definitionsByName (List.mem_map_of_mem hdefined)
  have hcopy : Entries.get?
      ((compiler.defineAll program.definitions).generator program).schemas
        definition.name = some (compiler.schemasFor definition) := by
    rw [generator, Entries.get?_map_of_mem _ hname,
      get?_components_of_last hlast]
    rfl
  rw [Generator.schemasFor, Generator.givenSchemas, hcopy]
  by_cases hempty : compiler.schemasFor definition = []
  · rw [hempty, inferredSchemas_of_schemasFor_eq_nil hempty]
    rfl
  · simp [Option.filter, hempty]

end LastDefinition

end Compiler

namespace Generator

private theorem emit_of_split {generator : Generator} {program : Program}
    {before after : List Definition} {definition : Definition}
    (hformat : generator.format = .tsx)
    (hdefinitions : program.definitions = before ++ definition :: after)
    (scan : Binding.Scan) (partition : Binding.Partition) :
    ∃ back, generator.emit program scan partition =
      Line.renderAll (headerLines ++
        (before.map generator.definitionInterface).flatten ++
          generator.definitionInterface definition ++ back) := by
  refine ⟨after.flatMap generator.definitionInterface ++
    interfaceLines generator.componentName
      ((Binding.parameters scan partition).map (· ++ ": any;")) ++
    generator.exportLines program (Binding.parameters scan partition)
      partition.internal, ?_⟩
  simp only [emit, lines, preamble, hformat, hdefinitions,
    List.flatMap_append, List.flatMap_cons, List.append_assoc,
    ← List.flatMap_def]

end Generator

namespace Session

/-- In typed code, the interface of a component lists the parameters of its last
definition.  A parameter may be left out there exactly if the check of the
component does not fail for want of it when everything else is given, and it has
the type of its registered schema. -/
theorem interfaces_agree_with_checks {session : Session} {source : Source}
    {program : Program} {log : Log} {result : CompilationResult}
    {before after : List Definition} {definition : Definition}
    (hload : source.load = .ok (program, log))
    (hformat : session.compiler.settings.format = .tsx)
    (hresult : (session.compile source).1 = .ok result)
    (hdefinitions : program.definitions = before ++ definition :: after)
    (hlast : ∀ later ∈ after, later.name ≠ definition.name)
    (hdeclared : ∀ schemas,
      Entries.get? session.compiler.declared definition.name = some schemas →
        (Entries.keys schemas).Nodup) :
    let registry := (session.compile source).2.compiler.registry
    ∃ schemas interfaces block back,
      let validator : Validator := ⟨definition.name, schemas⟩
      registry.validator? definition.name = some validator ∧
        (∀ parameter, ∃ props, validator.LeavesOut parameter props) ∧
        result.code = Line.renderAll (Generator.headerLines ++
          interfaces.flatten ++ block ++ back) ∧
        List.Forall₂ (fun earlier =>
          Generator.IsInterface Generator.DeclaresParameter earlier.name
            earlier.paramNames) before interfaces ∧
        Generator.IsInterface (registry.Declares validator) definition.name
          definition.paramNames block := by
  intro registry
  have huncut : session.Uncut source := by
    intro raised
    simp [hresult]
  have hregistry : registry =
      (session.compiler.defineAll program.definitions).registry :=
    registry_compile huncut hload
  have hfound := Program.lastDefinition?_of_split hdefinitions hlast
  let schemas := session.compiler.schemasFor definition
  have hget : Entries.get? registry.components definition.name =
      some schemas := by
    rw [hregistry]
    exact Compiler.get?_components_of_last hfound
  have hnames : (Entries.keys schemas).Nodup :=
    Compiler.nodup_keys_schemasFor hdeclared
  rw [compile_fst huncut] at hresult
  obtain ⟨checks, rfl⟩ :=
    Compiler.exists_result_of_answer_eq_ok hload hresult
  let defined := session.compiler.defineAll program.definitions
  let generator := defined.generator program
  have htyped : generator.format = .tsx := by
    simp only [generator, defined, Compiler.generator,
      Compiler.defineAll_settings, hformat]
  have hschemas : generator.schemasFor definition = schemas :=
    Compiler.schemasFor_generator hfound
  obtain ⟨back, hcode⟩ := Generator.emit_of_split htyped hdefinitions
    (Binding.scan program) (Binding.scan program).classify
  refine ⟨schemas, before.map generator.definitionInterface,
    generator.definitionInterface definition, back,
    Registry.validator?_eq_some_iff.mpr hget,
    Validator.exists_leavesOut _, hcode, ?_, ?_⟩
  · rw [List.forall₂_map_right_iff, List.forall₂_same]
    intro earlier _
    exact Generator.interfaceLines_isInterface earlier.name
      (Generator.propertyLines_declareParameters _ _)
  · apply Generator.interfaceLines_isInterface
    rw [hschemas, List.forall₂_map_right_iff, List.forall₂_same]
    intro parameter _
    exact Registry.propertyLine_declares hget hnames parameter

/-- A card has a title, which is declared, and a note, which is not. -/
def titledCard : Definition :=
  { name := "Card", params := [{ name := "title" }, { name := "note" }] }

def titledCards : Program :=
  { definitions :=
      [{ name := "Card", params := [{ name := "text" }] },
        { name := "Row", params := [{ name := "gap" }] }, titledCard] }

/-- The settings declare the title and the width of a card, and a rule lets no
component pass. -/
def closedSession : Session :=
  { compiler :=
      { settings := { format := .tsx }
        declared :=
          [("Card",
            [("width", .number {} {}),
              ("title", .string { required := true } {})])]
        registry :=
          { Builtin.registry with
            rules := [("closed", fun _ _ => some "no more components")] } } }

theorem titledCards_interface_agrees :
    ∃ result, (closedSession.compile (.program titledCards)).1 = .ok result ∧
      ∃ schemas, ∃ interfaces : List (List Line), ∃ block back,
        let registry :=
          (closedSession.compile (.program titledCards)).2.compiler.registry
        registry.validator? "Card" = some ⟨"Card", schemas⟩ ∧
          result.code = Line.renderAll (Generator.headerLines ++
            interfaces.flatten ++ block ++ back) ∧
          interfaces.length = 2 ∧
          Generator.IsInterface (registry.Declares ⟨"Card", schemas⟩) "Card"
            ["title", "note"] block := by
  have hload : (Source.program titledCards).load =
      .ok (titledCards, []) := rfl
  obtain ⟨result, hresult⟩ := Except.exists_eq_ok_iff_isOk.mpr
    (show (closedSession.compile (.program titledCards)).1.isOk = true by
      decide +kernel)
  have hdefinitions : titledCards.definitions =
      [{ name := "Card", params := [{ name := "text" }] },
        { name := "Row", params := [{ name := "gap" }] }] ++
          titledCard :: [] := rfl
  have hdeclared : ∀ schemas,
      Entries.get? closedSession.compiler.declared "Card" = some schemas →
        (Entries.keys schemas).Nodup := by
    intro schemas hschemas
    rw [← Option.some.inj hschemas]
    decide
  obtain ⟨schemas, interfaces, block, back, hvalidator, _, hcode, hbefore,
    hblock⟩ := interfaces_agree_with_checks hload rfl hresult hdefinitions
      (by simp) hdeclared
  exact ⟨result, hresult, schemas, interfaces, block, back, hvalidator, hcode,
    hbefore.length_eq.symm, hblock⟩

example :
    let defined := closedSession.compiler.defineAll titledCards.definitions
    ((defined.generator titledCards).definitionInterface titledCard).map
        Line.text =
      ["interface CardProps \x7b", "title: string;", "note?: any;", "\x7d",
        ""] := by
  decide +kernel

end Session

end ViewCompiler
