import ViewCompiler.Proofs.Compilation.Answer
import ViewCompiler.Proofs.Schema.Conformance
import Mathlib.Data.List.Forall2

/-!
# Generated code is independent of validation

The code of a program depends on the form, the tags and the name that the
settings give, and not on schemas, rules or the way in which failures are
treated.  The typed form lists the properties of every defined component in an
interface; the lines in there are the only ones that schemas have a say in.
-/

namespace ViewCompiler

namespace Generator

/-- Generators that differ at most in the schemas of components. -/
structure SameTarget (first second : Generator) : Prop where
  format_eq : second.format = first.format
  tagOverrides_eq : second.tagOverrides = first.tagOverrides
  componentName_eq : second.componentName = first.componentName

/-- A line of an interface that declares the parameter: its name, a mark if it
may be left out, and the type of some shape. -/
def DeclaresParameter (parameter line : String) : Prop :=
  ∃ mark ∈ ["", "?"], ∃ kind : Kind,
    line = parameter ++ mark ++ ": " ++ kind.typeScript ++ ";"

/-- The text of a typed module, given the property lines in the interfaces of
its definitions and all lines after these interfaces. -/
def typedText (definitions : List Definition)
    (properties : Definition → List String) (rest : List Line) : String :=
  Line.renderAll (headerLines ++
    definitions.flatMap
      (fun definition => interfaceLines definition.name (properties definition)) ++
    rest)

/-- Two typed modules that differ at most in the property lines of their
definitions' interfaces, where each declares the same parameters in the same
order. -/
def DifferInProperties (definitions : List Definition)
    (code code' : String) : Prop :=
  ∃ properties properties' rest,
    (∀ definition ∈ definitions,
      List.Forall₂ DeclaresParameter definition.paramNames
          (properties definition) ∧
        List.Forall₂ DeclaresParameter definition.paramNames
          (properties' definition)) ∧
      code = typedText definitions properties rest ∧
      code' = typedText definitions properties' rest

private theorem propertyLine_declaresParameter (schemas : Entries Schema)
    (parameter : String) :
    DeclaresParameter parameter (propertyLine schemas parameter) := by
  unfold propertyLine
  generalize (Entries.get? schemas parameter).getD (.any {}) = schema
  refine ⟨if schema.required then "" else "?", ?_, schema.kind, rfl⟩
  by_cases hrequired : schema.required = true
  · simp [hrequired]
  · simp [hrequired]

theorem propertyLines_declareParameters (schemas : Entries Schema)
    (parameters : List String) :
    List.Forall₂ DeclaresParameter parameters
      (parameters.map (propertyLine schemas)) := by
  rw [List.forall₂_map_right_iff, List.forall₂_same]
  intro parameter _
  exact propertyLine_declaresParameter schemas parameter

namespace SameTarget

variable {first second : Generator}

theorem tags_eq (hsame : SameTarget first second) :
    second.tags = first.tags := by
  rw [tags, hsame.tagOverrides_eq, tags]

private theorem definitionLines_eq (hsame : SameTarget first second)
    (definition : Definition) :
    second.definitionLines definition = first.definitionLines definition := by
  rw [definitionLines, hsame.format_eq, hsame.tags_eq, definitionLines]

theorem exportLines_eq (hsame : SameTarget first second) (program : Program)
    (parameters : List String) (internal : List BindTarget) :
    second.exportLines program parameters internal =
      first.exportLines program parameters internal := by
  have hdefinitions : second.definitionLines = first.definitionLines :=
    funext hsame.definitionLines_eq
  simp only [exportLines, hsame.format_eq, hsame.componentName_eq,
    hsame.tags_eq, hdefinitions]

private theorem fileName_eq (hsame : SameTarget first second) :
    second.fileName = first.fileName := by
  rw [fileName, hsame.componentName_eq, hsame.format_eq, fileName]

variable (program : Program) (scan : Binding.Scan)
  (partition : Binding.Partition)

private theorem emit_eq_of_jsx (hsame : SameTarget first second)
    (hformat : first.format = .jsx) :
    second.emit program scan partition = first.emit program scan partition := by
  have hsecond : second.format = .jsx := hsame.format_eq.trans hformat
  simp only [emit, lines, preamble, hformat, hsecond, hsame.exportLines_eq]

private theorem emit_differInProperties_of_tsx (hsame : SameTarget first second)
    (hformat : first.format = .tsx) :
    DifferInProperties program.definitions
      (first.emit program scan partition)
      (second.emit program scan partition) := by
  have hsecond : second.format = .tsx := hsame.format_eq.trans hformat
  let parameters := Binding.parameters scan partition
  -- Everything after the interfaces of the definitions is shared.
  let rest :=
    interfaceLines first.componentName (parameters.map (· ++ ": any;")) ++
      first.exportLines program parameters partition.internal
  refine ⟨
    fun definition => definition.paramNames.map
      (propertyLine (first.schemasFor definition)),
    fun definition => definition.paramNames.map
      (propertyLine (second.schemasFor definition)), rest, ?_, ?_, ?_⟩
  · intro definition _
    exact ⟨propertyLines_declareParameters _ _,
      propertyLines_declareParameters _ _⟩
  · simp only [emit, lines, preamble, hformat, typedText, List.append_assoc,
      rest, parameters]
    rfl
  · simp only [emit, lines, preamble, hsecond, typedText, List.append_assoc,
      hsame.exportLines_eq, hsame.componentName_eq, rest, parameters]
    rfl

end SameTarget

end Generator

namespace Compiler

/-- Compilers that are asked for the same form, tags and name, whatever their
schemas, rules and other settings are. -/
structure SameTarget (first second : Compiler) : Prop where
  format_eq : second.settings.format = first.settings.format
  tagOverrides_eq : second.settings.tagOverrides = first.settings.tagOverrides
  componentName_eq :
    second.settings.componentName = first.settings.componentName

theorem SameTarget.generator {first second : Compiler}
    (hsame : SameTarget first second) (program : Program) :
    Generator.SameTarget
      ((first.defineAll program.definitions).generator program)
      ((second.defineAll program.definitions).generator program) := by
  constructor
  · simp only [Compiler.generator, defineAll_settings, hsame.format_eq]
  · simp only [Compiler.generator, defineAll_settings, hsame.tagOverrides_eq]
  · simp only [Compiler.generator, defineAll_settings, hsame.componentName_eq]

theorem exists_result_of_answer_eq_ok {compiler : Compiler} {source : Source}
    {program : Program} {log : Log} {result : CompilationResult}
    (hload : source.load = .ok (program, log))
    (hanswer : compiler.answer source = .ok result) :
    ∃ checks,
      result =
        (compiler.defineAll program.definitions).result program checks := by
  obtain ⟨found, foundLog, hfound, houtcome⟩ :=
    exists_load_of_answer_eq_ok hanswer
  rw [hload, Except.ok.injEq, Prod.mk.injEq] at hfound
  rw [← hfound.1] at houtcome
  exact exists_checks_of_outcome_eq_ok houtcome

/-- Two compilers that are asked for the same form, tags and name give the same
names and the same code wherever both give a result.  Only in the typed form
may the code differ, and there only in the property lines of the interfaces of
the program's definitions. -/
theorem results_independent_of_validation {first second : Compiler}
    (hsame : SameTarget first second) {source : Source}
    {result result' : CompilationResult}
    (hfirst : first.answer source = .ok result)
    (hsecond : second.answer source = .ok result') :
    ∃ program log, source.load = .ok (program, log) ∧
      result'.parameters = result.parameters ∧
      result'.internalState = result.internalState ∧
      result'.externalProps = result.externalProps ∧
      result'.customComponents = result.customComponents ∧
      result'.fileName = result.fileName ∧
      (first.settings.format = .jsx → result'.code = result.code) ∧
      (first.settings.format = .tsx →
        Generator.DifferInProperties program.definitions
          result.code result'.code) := by
  obtain ⟨program, log, hload, _⟩ := exists_load_of_answer_eq_ok hfirst
  obtain ⟨checks, rfl⟩ := exists_result_of_answer_eq_ok hload hfirst
  obtain ⟨checks', rfl⟩ := exists_result_of_answer_eq_ok hload hsecond
  have hgenerator := hsame.generator program
  have hformat :
      ((first.defineAll program.definitions).generator program).format =
        first.settings.format := by
    rw [Compiler.generator, defineAll_settings]
  refine ⟨program, log, hload, rfl, rfl, rfl, rfl, hgenerator.fileName_eq,
    ?_, ?_⟩
  · intro hjsx
    exact hgenerator.emit_eq_of_jsx program _ _ (hformat.trans hjsx)
  · intro htsx
    exact hgenerator.emit_differInProperties_of_tsx program _ _
      (hformat.trans htsx)

def badge : Definition :=
  { name := "Badge"
    params := [{ name := "label" }, { name := "count" }]
    body := [.element "Text" [("text", .expression (.of "label"))] []] }

/-- A page with a badge and an empty title. -/
def badgePage : Source :=
  .program
    { definitions := [badge]
      body :=
        [.element "Badge"
          [("label", .text "New"), ("count", .literal (.number (.int 3)))] [],
          .element "Title" [] []] }

/-- The badge has declared schemas, and the title is refused without stopping
the compiler. -/
def declaringCompiler (format : Format) : Compiler :=
  { settings := { format, documentation := true }
    declared := [("Badge", [("label", .string {} {})])]
    registry := Builtin.registry }

/-- No component is known in advance, and any failure would stop the
compiler. -/
def inferringCompiler (format : Format) : Compiler :=
  { settings := { format, strict := true }
    registry := { rules := [("quiet", fun _ _ => none)] } }

theorem sameTarget_badgeCompilers (format : Format) :
    SameTarget (declaringCompiler format) (inferringCompiler format) :=
  ⟨rfl, rfl, rfl⟩

theorem badge_results_independent :
    ∃ jsx jsx' tsx tsx',
      (declaringCompiler .jsx).answer badgePage = .ok jsx ∧
      (inferringCompiler .jsx).answer badgePage = .ok jsx' ∧
      (declaringCompiler .tsx).answer badgePage = .ok tsx ∧
      (inferringCompiler .tsx).answer badgePage = .ok tsx' ∧
      jsx'.code = jsx.code ∧ tsx'.code ≠ tsx.code ∧
      Generator.DifferInProperties [badge] tsx.code tsx'.code := by
  have hcodes :
      ((declaringCompiler .tsx).answer badgePage).toOption.map
          CompilationResult.code ≠
        ((inferringCompiler .tsx).answer badgePage).toOption.map
          CompilationResult.code := by
    decide +kernel
  obtain ⟨jsx, hjsx⟩ := Except.exists_eq_ok_iff_isOk.mpr
    (show ((declaringCompiler .jsx).answer badgePage).isOk = true by
      decide +kernel)
  obtain ⟨jsx', hjsx'⟩ := Except.exists_eq_ok_iff_isOk.mpr
    (show ((inferringCompiler .jsx).answer badgePage).isOk = true by
      decide +kernel)
  obtain ⟨tsx, htsx⟩ := Except.exists_eq_ok_iff_isOk.mpr
    (show ((declaringCompiler .tsx).answer badgePage).isOk = true by
      decide +kernel)
  obtain ⟨tsx', htsx'⟩ := Except.exists_eq_ok_iff_isOk.mpr
    (show ((inferringCompiler .tsx).answer badgePage).isOk = true by
      decide +kernel)
  obtain ⟨_, _, _, _, _, _, _, _, huntyped, _⟩ :=
    results_independent_of_validation (sameTarget_badgeCompilers .jsx) hjsx
      hjsx'
  obtain ⟨program, log, hload, _, _, _, _, _, _, htyped⟩ :=
    results_independent_of_validation (sameTarget_badgeCompilers .tsx) htsx
      htsx'
  have hdefinitions : program.definitions = [badge] := by
    rw [← (Prod.mk.inj (Except.ok.inj hload)).1]
  rw [htsx, htsx'] at hcodes
  refine ⟨jsx, jsx', tsx, tsx', hjsx, hjsx', htsx, htsx', huntyped rfl, ?_, ?_⟩
  · intro heq
    exact hcodes (congrArg some heq.symm)
  · rw [← hdefinitions]
    exact htyped rfl

end Compiler
end ViewCompiler
