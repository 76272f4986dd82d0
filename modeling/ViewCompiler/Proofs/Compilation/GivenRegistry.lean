import ViewCompiler.Proofs.Compilation.Refusals

/-!
# The registry that a compiler is given

A compiler without declared schemas checks a program against the registry that
it was given, together with the components that the program defines; unless that
registry has no components.  Such a registry counts as none, and the compiler
checks against the built-in components instead.  This shows in the failures of a
program that uses a built-in component, and the rules of the registry are lost
with it.
-/

namespace ViewCompiler

/-- The registry with the components of definitions, as they are read off their
use. -/
def Registry.withDefinitions (registry : Registry)
    (definitions : List Definition) : Registry :=
  definitions.foldl
    (fun registry definition =>
      registry.register definition.name definition.inferredSchemas) registry

namespace Compiler

variable {settings : Settings} {given : Option Registry} {compiler : Compiler}

theorem create_of_no_declared (hdeclared : settings.customSchemas = [])
    (given : Option Registry) :
    (create settings given).1 =
      .ok { settings, declared := [], registry := baseRegistry given } := by
  rw [create, hdeclared]
  rfl

theorem registry_defineAll_of_no_declared (hdeclared : compiler.declared = [])
    (definitions : List Definition) :
    (compiler.defineAll definitions).registry =
      compiler.registry.withDefinitions definitions := by
  induction definitions generalizing compiler with
  | nil => rfl
  | cons definition rest ih =>
      have hschemas : compiler.schemasFor definition =
          definition.inferredSchemas := by
        rw [schemasFor, declaredFor, hdeclared]
        rfl
      have hregistry : (compiler.define definition).registry =
          compiler.registry.register definition.name
            definition.inferredSchemas := by
        rw [define, hschemas]
      calc
        (compiler.defineAll (definition :: rest)).registry =
            ((compiler.define definition).defineAll rest).registry := rfl
        _ = (compiler.define definition).registry.withDefinitions rest :=
          ih hdeclared
        _ = compiler.registry.withDefinitions (definition :: rest) := by
          rw [hregistry]
          rfl

end Compiler

namespace Session

/-- The failures that compiling a source reports are those of the registry with
the components of the program.  A schema with a bound that is no number may
interrupt the compilation instead. -/
def ChecksAgainst (session : Session) (registry : Registry)
    (source : Source) : Prop :=
  ∀ program log, source.load = .ok (program, log) →
    (∃ result, (session.compile source).1 = .ok result ∧
      result.failures =
        ((registry.withDefinitions program.definitions).refusals
          program.nodes).map Prod.snd) ∨
      session.compiler.hasNumericBounds = false ∧
        ∃ comparison,
          (session.compile source).1 = .error (.interrupted comparison)

theorem ChecksAgainst.exists_result {session : Session} {registry : Registry}
    {source : Source} {program : Program} {log : Log}
    (hchecks : session.ChecksAgainst registry source)
    (hnumeric : session.compiler.hasNumericBounds = true)
    (hload : source.load = .ok (program, log)) :
    ∃ result, (session.compile source).1 = .ok result ∧
      result.failures =
        ((registry.withDefinitions program.definitions).refusals
          program.nodes).map Prod.snd := by
  rcases hchecks program log hload with hresult | ⟨hbounds, _⟩
  · exact hresult
  · rw [hnumeric] at hbounds
    contradiction

theorem checksAgainst_own_registry {session : Session}
    (hdeclared : session.compiler.declared = [])
    (hlenient : session.compiler.settings.strict = false) {source : Source}
    (huncut : session.Uncut source) :
    session.ChecksAgainst session.compiler.registry source := by
  intro program log hload
  rw [compile_fst huncut,
    ← Compiler.registry_defineAll_of_no_declared hdeclared]
  exact Compiler.answer_of_lenient hlenient hload

/-- A heading without a text. -/
def untitledHeading : Program :=
  { body := [.element "Title" [] []] }

theorem refusals_of_isEmpty {registry : Registry}
    (hempty : registry.isEmpty = true) :
    registry.refusals untitledHeading.nodes = [] := by
  have hcomponents : registry.components = [] := by
    simpa [Registry.isEmpty] using hempty
  have hhas : registry.has "Title" = false := by
    simp [Registry.has, Entries.has, hcomponents, Entries.get?]
  simp [Registry.refusals, untitledHeading, Program.nodes, Node.walkAll,
    Node.walk, Registry.refusal?, hhas]

/-- A compiler with the built-in components refuses the heading, so it does not
check against a registry that has no components. -/
theorem not_checksAgainst_of_isEmpty {session : Session} {registry : Registry}
    (hbuiltin : session.compiler.registry = Builtin.registry)
    (hdeclared : session.compiler.declared = [])
    (hlenient : session.compiler.settings.strict = false)
    (huncut : session.Uncut (.program untitledHeading))
    (hempty : registry.isEmpty = true) :
    ¬session.ChecksAgainst registry (.program untitledHeading) := by
  intro hchecks
  have hnumeric : session.compiler.hasNumericBounds = true := by
    rw [Compiler.hasNumericBounds, hbuiltin, hdeclared]
    decide +kernel
  have hrefused : (Builtin.registry.refusals
      untitledHeading.nodes).length = 1 := by
    decide +kernel
  have hload : (Source.program untitledHeading).load =
      .ok (untitledHeading, []) := rfl
  have hown := checksAgainst_own_registry hdeclared hlenient huncut
  obtain ⟨result, hresult, hfailures⟩ := hown.exists_result hnumeric hload
  obtain ⟨other, hother, hnone⟩ := hchecks.exists_result hnumeric hload
  obtain rfl : result = other := Except.ok.inj (hresult.symm.trans hother)
  have hlength :
      (Builtin.registry.refusals untitledHeading.nodes).length = 0 := by
    calc
      (Builtin.registry.refusals untitledHeading.nodes).length =
          result.failures.length := by
        rw [hfailures, hbuiltin, List.length_map]
        rfl
      _ = (registry.refusals untitledHeading.nodes).length := by
        rw [hnone, List.length_map]
        rfl
      _ = 0 := by rw [refusals_of_isEmpty hempty, List.length_nil]
  omega

/-- A lenient compiler without declared schemas reports exactly the failures of
the registry that it was given if that has components.  If it has none, the
failures are those of the built-in components, and there is a program for which
they are not those of the given registry, whatever its rules.  Hooks may watch
the compilations, but cut none of them off. -/
theorem given_registry_respected_iff {settings : Settings}
    (hdeclared : settings.customSchemas = [])
    (hlenient : settings.strict = false) (given : Registry) :
    ∃ compiler, (Compiler.create settings (some given)).1 = .ok compiler ∧
      ∀ hooks,
        let session : Session := { compiler, hooks }
        (∀ source, session.Uncut source) →
        (∀ source, session.ChecksAgainst
          (if given.isEmpty then Builtin.registry else given) source) ∧
        ((∀ source, session.ChecksAgainst given source) ↔
          given.isEmpty = false) := by
  refine ⟨_, Compiler.create_of_no_declared hdeclared (some given), ?_⟩
  intro hooks session huncut
  have hown : ∀ source, session.ChecksAgainst session.compiler.registry
      source := by
    intro source
    exact checksAgainst_own_registry rfl hlenient (huncut source)
  refine ⟨hown, ?_, ?_⟩
  · intro hchecks
    rw [← Bool.not_eq_true]
    intro hempty
    have hbuiltin : session.compiler.registry = Builtin.registry :=
      if_pos hempty
    exact not_checksAgainst_of_isEmpty hbuiltin rfl hlenient (huncut _) hempty
      (hchecks (.program untitledHeading))
  · intro hcomponents source
    have hgiven : session.compiler.registry = given :=
      if_neg (by simp [hcomponents])
    rw [← hgiven]
    exact hown source

/-- Badges need a label, and nothing may be hidden. -/
def badgeRegistry : Registry :=
  { components := [("Badge", [("label", Builtin.requiredText)])]
    rules := [("visible", fun name props =>
      if Entries.has props "hidden" then some (name ++ " is hidden")
      else none)] }

/-- A component around an unlabelled badge, beside a heading without a text. -/
def unlabelledBadge : Program :=
  { definitions := [{ name := "Tag", body := [.element "Badge" [] []] }]
    body := [.element "Tag" [] [.element "Title" [] []]] }

/-- With a registry of badges, the badge is refused and the heading is not. -/
theorem badgeRegistry_respected :
    ∃ compiler, (Compiler.create {} (some badgeRegistry)).1 = .ok compiler ∧
      ∃ result failure,
        (({ compiler } : Session).compile (.program unlabelledBadge)).1 =
            .ok result ∧
          result.failures = [failure] ∧ failure.component = some "Badge" ∧
          failure.prop = some "label" := by
  obtain ⟨compiler, hcreated, hsession⟩ :=
    @given_registry_respected_iff {} rfl rfl badgeRegistry
  have hnumeric : compiler.hasNumericBounds = true := by
    obtain rfl := Except.ok.inj hcreated
    decide +kernel
  have hrefusals : (((badgeRegistry.withDefinitions
      unlabelledBadge.definitions).refusals unlabelledBadge.nodes).map
        Prod.snd).map (fun failure => (failure.component, failure.prop)) =
          [(some "Badge", some "label")] := by
    decide +kernel
  refine ⟨compiler, hcreated, ?_⟩
  have hchecks := (hsession {} (uncut_without_hooks compiler)).2.mpr rfl
    (.program unlabelledBadge)
  have hload : (Source.program unlabelledBadge).load =
      .ok (unlabelledBadge, []) := rfl
  obtain ⟨result, hresult, hfailures⟩ :=
    hchecks.exists_result hnumeric hload
  rw [← hfailures] at hrefusals
  obtain ⟨failure, _, hlist, hfailure, hnil⟩ :=
    List.map_eq_cons_iff.mp hrefusals
  rw [List.map_eq_nil_iff.mp hnil] at hlist
  obtain ⟨hcomponent, hprop⟩ := Prod.mk.inj hfailure
  exact ⟨result, failure, hresult, hlist, hcomponent, hprop⟩

/-- The registry without components is not the one that is checked against. -/
theorem empty_registry_replaced :
    ∃ compiler, (Compiler.create {} (some {})).1 = .ok compiler ∧
      ¬({ compiler } : Session).ChecksAgainst {}
        (.program untitledHeading) := by
  refine ⟨_, Compiler.create_of_no_declared rfl (some {}), ?_⟩
  exact not_checksAgainst_of_isEmpty rfl rfl rfl (uncut_without_hooks _ _) rfl

end Session

end ViewCompiler
