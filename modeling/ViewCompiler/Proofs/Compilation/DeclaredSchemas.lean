import ViewCompiler.Proofs.Compilation.Refusals
import ViewCompiler.Proofs.Compilation.Repetition

/-!
# Schemas that the settings declare

Declared schemas come into the registry twice: when the compiler is set up, and
again when a program defines a component of that name.  The two ways agree as
long as something is declared.  A component that is declared to have no
properties gets none when the compiler is set up, but a definition is taken for
undeclared then, and its parameters are read off its use instead.
-/

namespace ViewCompiler

/-- The settings with schemas declared for components. -/
def Settings.declaring (settings : Settings)
    (declared : Entries (Entries Schema)) : Settings :=
  { settings with
    customSchemas :=
      Entries.mapValues (Entries.mapValues .proper) declared }

theorem Definition.inferredSchemas_eq_nil_iff {definition : Definition} :
    definition.inferredSchemas = [] ↔ definition.params = [] := by
  rw [inferredSchemas, Entries.ofPairs_eq_nil_iff, List.map_eq_nil_iff]

theorem Registry.validator?_eq_some_iff {registry : Registry} {name : String}
    {schemas : Entries Schema} :
    registry.validator? name = some ⟨name, schemas⟩ ↔
      Entries.get? registry.components name = some schemas := by
  simp [validator?]

/-- Registering what is registered already changes nothing. -/
theorem Registry.register_eq_self {registry : Registry} {name : String}
    {schemas : Entries Schema}
    (hget : Entries.get? registry.components name = some schemas) :
    registry.register name schemas = registry := by
  rw [register, Entries.set_eq_self hget]

namespace Compiler

/-! ## Setting up a compiler -/

theorem properSchemas_proper (component : String) (schemas : Entries Schema) :
    properSchemas component (Entries.mapValues .proper schemas) =
      .ok schemas := by
  induction schemas with
  | nil => rfl
  | cons entry rest ih =>
      obtain ⟨prop, schema⟩ := entry
      rw [Entries.mapValues_cons, properSchemas, ih]
      rfl

private theorem registerDeclared_proper (registry : Registry)
    (declared : Entries (Entries Schema)) :
    (registerDeclared registry
        (Entries.mapValues (Entries.mapValues .proper) declared)).1 =
      .ok ({ registry with
              components := Entries.setAll registry.components declared },
            declared) := by
  induction declared generalizing registry with
  | nil => rfl
  | cons entry rest ih =>
      obtain ⟨name, schemas⟩ := entry
      rw [Entries.mapValues_cons, registerDeclared, properSchemas_proper]
      simp only [ih (registry.register name schemas)]
      rfl

theorem create_declaring (settings : Settings)
    (declared : Entries (Entries Schema)) (given : Option Registry) :
    (create (settings.declaring declared) given).1 =
      .ok
        { settings := settings.declaring declared
          declared
          registry :=
            { baseRegistry given with
              components :=
                Entries.setAll (baseRegistry given).components declared } } := by
  have hregistered := registerDeclared_proper (baseRegistry given) declared
  unfold create
  simp only [Settings.declaring, hregistered]
  rfl

/-! ## Defining a component -/

section Defining

variable {compiler : Compiler} {definition : Definition}
  {schemas : Entries Schema}
  (hdeclared :
    Entries.get? compiler.declared definition.name = some schemas)

include hdeclared

theorem schemasFor_of_declared (hschemas : schemas ≠ []) :
    compiler.schemasFor definition = schemas := by
  rw [schemasFor, declaredFor, hdeclared]
  simp [Option.filter, hschemas]

theorem schemasFor_of_declared_empty (hschemas : schemas = []) :
    compiler.schemasFor definition = definition.inferredSchemas := by
  rw [schemasFor, declaredFor, hdeclared, hschemas]
  rfl

end Defining

/-- Once a program is compiled, its declared schemas are registered under a name
unless they are empty and the program defines a component of that name with
parameters. -/
theorem get?_components_defineAll_eq_declared_iff {compiler : Compiler}
    {name : String} {schemas : Entries Schema}
    (hdeclared : Entries.get? compiler.declared name = some schemas)
    (hregistered :
      Entries.get? compiler.registry.components name = some schemas)
    (program : Program) :
    Entries.get? (compiler.defineAll program.definitions).registry.components
        name = some schemas ↔
      (schemas = [] → ∀ definition,
        program.lastDefinition? name = some definition →
          definition.params = []) := by
  rw [get?_components_defineAll, hregistered]
  cases hlast : program.lastDefinition? name with
  | none => simp
  | some definition =>
      obtain rfl := Program.name_of_lastDefinition? hlast
      by_cases hschemas : schemas = []
      · simp [schemasFor_of_declared_empty hdeclared hschemas, hschemas,
          Definition.inferredSchemas_eq_nil_iff]
      · simp [schemasFor_of_declared hdeclared hschemas, hschemas]

end Compiler

namespace Session

/-- Schemas that the settings declare for a component are those that it is
checked against after the compilation of any source, and in it, whether or not
the program defines the component; unless they are empty and the last definition
of the component has parameters.  Hooks may watch the compilation, but do not
cut it off. -/
theorem declared_schemas_prevail_iff (settings : Settings)
    (given : Option Registry) (declared : Entries (Entries Schema))
    (hkeys : (Entries.keys declared).Nodup) {name : String}
    {schemas : Entries Schema}
    (hdeclared : Entries.get? declared name = some schemas) :
    ∃ compiler,
      (Compiler.create (settings.declaring declared) given).1 = .ok compiler ∧
        ∀ hooks source,
          let session : Session := { compiler, hooks }
          let after := (session.compile source).2.compiler.registry
          session.Uncut source →
          (after.validator? name = some ⟨name, schemas⟩ ↔
            (schemas = [] → ∀ definition,
              source.content.lastDefinition? name = some definition →
                definition.params = [])) ∧
          (after.validator? name = some ⟨name, schemas⟩ →
            ∀ program log, source.load = .ok (program, log) →
              session.Reports source
                ((after.register name schemas).refusals program.nodes)) := by
  refine ⟨_, Compiler.create_declaring settings declared given, ?_⟩
  intro hooks source session after huncut
  have hregistered :
      Entries.get? session.compiler.registry.components name = some schemas :=
    Entries.get?_setAll_of_nodup hkeys hdeclared
  have hafter : after =
      (session.compiler.defineAll source.content.definitions).registry := by
    rw [← compile_compiler huncut]
  refine ⟨?_, ?_⟩
  · rw [Registry.validator?_eq_some_iff, hafter]
    exact Compiler.get?_components_defineAll_eq_declared_iff hdeclared
      hregistered source.content
  · intro hvalidator program log hload
    rw [Registry.register_eq_self
      (Registry.validator?_eq_some_iff.mp hvalidator)]
    exact reports_refusals huncut hload

/-- Spacers have no properties, and cards have a title. -/
def cardDeclarations : Entries (Entries Schema) :=
  [("Spacer", []), ("Card", [("title", Builtin.requiredText)])]

/-- A page that defines cards twice, without a title the second time, and shows
one as it was defined last. -/
def redefinedCards : Program :=
  { definitions :=
      [{ name := "Card", params := [{ name := "title" }, { name := "wide" }] },
        { name := "Card", params := [{ name := "heading" }] }]
    body :=
      [.element "Spacer" [("size", .text "large")] [],
        .element "Card" [("heading", .expression (.of "news"))] []] }

theorem redefinedCards_need_title :
    ∃ compiler,
      (Compiler.create (({} : Settings).declaring cardDeclarations)).1 =
          .ok compiler ∧
        let ended :=
          ({ compiler } : Session).compile (.program redefinedCards)
        ended.2.compiler.registry.validator? "Card" =
            some ⟨"Card", [("title", Builtin.requiredText)]⟩ ∧
          ended.2.compiler.registry.validator? "Spacer" =
            some ⟨"Spacer", []⟩ ∧
          ∃ result, ended.1 = .ok result ∧
            result.failures.map
                (fun failure => (failure.component, failure.prop)) =
              [(some "Card", some "title")] := by
  have hkeys : (Entries.keys cardDeclarations).Nodup := by decide
  have hcard : Entries.get? cardDeclarations "Card" =
      some [("title", Builtin.requiredText)] := rfl
  have hspacer : Entries.get? cardDeclarations "Spacer" = some [] := rfl
  have hload : (Source.program redefinedCards).load =
      .ok (redefinedCards, []) := rfl
  obtain ⟨compiler, hcreated, hcards⟩ :=
    declared_schemas_prevail_iff {} none cardDeclarations hkeys hcard
  obtain ⟨_, hsame, hspacers⟩ :=
    declared_schemas_prevail_iff {} none cardDeclarations hkeys hspacer
  obtain rfl := Except.ok.inj (hcreated.symm.trans hsame)
  have huncut := uncut_without_hooks compiler (.program redefinedCards)
  obtain ⟨hcardIff, hreports⟩ := hcards {} (.program redefinedCards) huncut
  have hcardFound := hcardIff.mpr (by simp)
  have hspacerFound := (hspacers {} (.program redefinedCards) huncut).1.mpr
    fun _ definition hlast => by
      have hnone : redefinedCards.lastDefinition? "Spacer" = none := by decide
      rw [Source.content_of_load hload, hnone] at hlast
      contradiction
  refine ⟨compiler, hcreated, hcardFound, hspacerFound, ?_⟩
  have hreported := hreports hcardFound redefinedCards [] hload
  obtain rfl := Except.ok.inj hcreated
  obtain ⟨result, hresult, hfailures⟩ :=
    hreported.exists_result rfl (by decide +kernel)
  refine ⟨result, hresult, ?_⟩
  rw [hfailures]
  decide +kernel

/-- A page that defines cards with a title and shows one without. -/
def untitledCards : Program :=
  { definitions := [{ name := "Card", params := [{ name := "title" }] }]
    body := [.element "Card" [] []] }

/-- Cards are declared to have no properties, and are refused for want of a
title. -/
theorem empty_declaration_overruled :
    ∃ compiler,
      (Compiler.create (({} : Settings).declaring [("Card", [])])).1 =
          .ok compiler ∧
        let ended := ({ compiler } : Session).compile (.program untitledCards)
        ended.2.compiler.registry.validator? "Card" ≠ some ⟨"Card", []⟩ ∧
          ended.1.toOption.map (fun result => result.failures.map
              fun failure => (failure.component, failure.prop)) =
            some [(some "Card", some "title")] := by
  refine ⟨_, Compiler.create_declaring {} [("Card", [])] none, ?_, ?_⟩
  · intro hvalidator
    have hprops := congrArg (Option.map Validator.propNames) hvalidator
    revert hprops
    decide +kernel
  · decide +kernel

end Session

end ViewCompiler
