import ViewCompiler.Proofs.Compilation.Session

/-!
# Compiling again

A compilation leaves the components of its program in the registry.  A later
compilation registers its own components over them and looks up no others than
these and the tags of its elements.  So an earlier compilation shows in the
result of a later one only by a component that the earlier program defines, the
later one does not define, and one of its elements is called after; and in the
documentation, which lists all components, by any component that only the
earlier program defines.
-/

namespace ViewCompiler

/-- The result without the page on the components. -/
def CompilationResult.withoutDocumentation (result : CompilationResult) :
    CompilationResult :=
  { result with documentation := none }

namespace Program

def definedNames (program : Program) : List String :=
  program.definitions.map Definition.name

/-- The last definition of a name. -/
def lastDefinition? (program : Program) (name : String) : Option Definition :=
  program.definitions.reverse.find? fun definition => definition.name == name

theorem name_of_lastDefinition? {program : Program} {name : String}
    {definition : Definition}
    (hlast : program.lastDefinition? name = some definition) :
    definition.name = name := by
  simpa using List.find?_some hlast

/-- The tags of the elements, in the order of a walk. -/
def elementTags (program : Program) : List String :=
  program.nodes.filterMap fun
    | .element tag _ _ => some tag
    | _ => none

theorem mem_elementTags {program : Program} {tag : String} {props : Props}
    {children : List Node}
    (hnode : .element tag props children ∈ program.nodes) :
    tag ∈ program.elementTags :=
  List.mem_filterMap.mpr ⟨_, hnode, rfl⟩

end Program

namespace Compiler

/-! ## What defining components leaves -/

/-- The schemas of definitions under their names. -/
def schemaPairs (compiler : Compiler) (definitions : List Definition) :
    List (String × Entries Schema) :=
  definitions.map fun definition =>
    (definition.name, compiler.schemasFor definition)

def definitionPairs (definitions : List Definition) :
    List (String × Definition) :=
  definitions.map fun definition => (definition.name, definition)

theorem mem_definedNames_of_mem_keys {program : Program} {name : String}
    (hname : name ∈ Entries.keys (definitionsByName program)) :
    name ∈ program.definedNames := by
  obtain ⟨entry, hentry, rfl⟩ := List.mem_map.mp hname
  obtain ⟨definition, hdefinition, rfl⟩ :=
    List.mem_map.mp (Entries.mem_ofPairs hentry)
  exact List.mem_map_of_mem hdefinition

theorem keys_schemaPairs (compiler : Compiler) (program : Program) :
    Entries.keys (compiler.schemaPairs program.definitions) =
      program.definedNames := by
  simp [schemaPairs, Entries.keys, Program.definedNames]

theorem defineAll_eq (compiler : Compiler) (definitions : List Definition) :
    compiler.defineAll definitions =
      { compiler with
        registry :=
          { compiler.registry with
            components := Entries.setAll compiler.registry.components
              (compiler.schemaPairs definitions) }
        custom := Entries.setAll compiler.custom
          (definitionPairs definitions) } := by
  induction definitions generalizing compiler with
  | nil => rfl
  | cons definition rest ih => exact ih (compiler.define definition)

theorem components_defineAll (compiler : Compiler) (program : Program) :
    (compiler.defineAll program.definitions).registry.components =
      Entries.setAll compiler.registry.components
        (compiler.schemaPairs program.definitions) := by
  rw [defineAll_eq]

/-- Of the definitions of a name, the last is registered. -/
theorem get?_components_defineAll (compiler : Compiler) (program : Program)
    (name : String) :
    Entries.get? (compiler.defineAll program.definitions).registry.components
        name =
      ((program.lastDefinition? name).map compiler.schemasFor).or
        (Entries.get? compiler.registry.components name) := by
  rw [components_defineAll, Entries.get?_setAll, schemaPairs,
    ← List.map_reverse, List.find?_map, Option.map_map]
  rfl

/-- The schemas of a definition do not depend on what was registered before. -/
theorem schemaPairs_defineAll (compiler : Compiler)
    (earlier later : List Definition) :
    (compiler.defineAll earlier).schemaPairs later =
      compiler.schemaPairs later := by
  rw [defineAll_eq]
  rfl

theorem defineAll_defineAll_self (compiler : Compiler)
    (definitions : List Definition) :
    (compiler.defineAll definitions).defineAll definitions =
      compiler.defineAll definitions := by
  rw [defineAll_eq (compiler.defineAll definitions), schemaPairs_defineAll,
    defineAll_eq]
  simp only [Entries.setAll_setAll_self]

/-! ## Compilers that a program cannot tell apart -/

/-- Compilers whose components are registered, and whose registries say the same
of every component that the program defines or uses. -/
structure AgreeFor (program : Program) (first second : Compiler) : Prop where
  settings_eq : second.settings = first.settings
  rules_eq : second.registry.rules = first.registry.rules
  get?_eq : ∀ name,
    name ∈ program.definedNames ∨ name ∈ program.elementTags →
      Entries.get? second.registry.components name =
        Entries.get? first.registry.components name

namespace AgreeFor

variable {program : Program} {first second : Compiler}

theorem run_eq (hagree : AgreeFor program first second) {tag : String}
    (htag : tag ∈ program.elementTags) (props : Props) :
    Check.run second.registry tag props = Check.run first.registry tag props := by
  have hget := hagree.get?_eq tag (Or.inr htag)
  simp only [Check.run, Registry.validate, Registry.validateLog,
    Registry.validator?, Registry.applyRules, hget, hagree.rules_eq]

private theorem ofNode_eq (hagree : AgreeFor program first second) {node : Node}
    (hnode : node ∈ program.nodes) :
    Check.ofNode second.registry node = Check.ofNode first.registry node := by
  cases node with
  | element tag props children =>
      have htag := Program.mem_elementTags hnode
      have hhas : second.registry.has tag = first.registry.has tag := by
        simp only [Registry.has, Entries.has,
          hagree.get?_eq tag (Or.inr htag)]
      simp only [Check.ofNode, hhas, hagree.run_eq htag]
  | conditional condition children => rfl
  | loop item source children => rfl

theorem nodeComparison?_eq (hagree : AgreeFor program first second)
    {node : Node} (hnode : node ∈ program.nodes) :
    Check.nodeComparison? second.registry node =
      Check.nodeComparison? first.registry node := by
  cases node with
  | element tag props children =>
      have hget :=
        hagree.get?_eq tag (Or.inr (Program.mem_elementTags hnode))
      simp only [Check.nodeComparison?, Check.comparison?,
        Registry.comparison?, Registry.validator?, hget]
  | conditional condition children => rfl
  | loop item source children => rfl

theorem interrupted_eq (hagree : AgreeFor program first second) :
    Check.interrupted second.registry program.nodes =
      Check.interrupted first.registry program.nodes := by
  have hnodes : ∀ nodes : List Node, (∀ node ∈ nodes, node ∈ program.nodes) →
      Check.interrupted second.registry nodes =
        Check.interrupted first.registry nodes := by
    intro nodes hmem
    induction nodes with
    | nil => rfl
    | cons node rest ih =>
        rw [List.forall_mem_cons] at hmem
        simp only [Check.interrupted, hagree.nodeComparison?_eq hmem.1,
          ih hmem.2]
  exact hnodes program.nodes fun _ hnode => hnode

private theorem filterMap_ofNode_eq (hagree : AgreeFor program first second)
    {nodes : List Node} (hnodes : ∀ node ∈ nodes, node ∈ program.nodes) :
    nodes.filterMap (Check.ofNode second.registry) =
      nodes.filterMap (Check.ofNode first.registry) := by
  apply List.filterMap_congr
  intro node hnode
  exact hagree.ofNode_eq (hnodes node hnode)

theorem generator_eq (hagree : AgreeFor program first second) :
    second.generator program = first.generator program := by
  have hschemas : ∀ name ∈ Entries.keys (definitionsByName program),
      Entries.get? second.registry.components name =
        Entries.get? first.registry.components name := by
    intro name hname
    exact hagree.get?_eq name (Or.inl (mem_definedNames_of_mem_keys hname))
  have hmap : (Entries.keys (definitionsByName program)).map (fun name =>
        (name, (Entries.get? second.registry.components name).getD [])) =
      (Entries.keys (definitionsByName program)).map fun name =>
        (name, (Entries.get? first.registry.components name).getD []) := by
    apply List.map_congr_left
    intro name hname
    rw [hschemas name hname]
  simp only [generator, hagree.settings_eq, hmap]

theorem result_withoutDocumentation_eq (hagree : AgreeFor program first second)
    (checks : List Check) :
    (second.result program checks).withoutDocumentation =
      (first.result program checks).withoutDocumentation := by
  simp only [result, CompilationResult.withoutDocumentation,
    hagree.generator_eq, hagree.settings_eq]

theorem page_eq (hagree : AgreeFor program first second)
    (hothers : second.registry.components.filter
        (fun entry => !Entries.has (definitionsByName program) entry.1) =
      first.registry.components.filter
        fun entry => !Entries.has (definitionsByName program) entry.1) :
    Documentation.page second.registry (definitionsByName program) =
      Documentation.page first.registry (definitionsByName program) := by
  have hsections : (definitionsByName program).flatMap
        (fun entry => Documentation.customSection second.registry entry.1
          entry.2) =
      (definitionsByName program).flatMap fun entry =>
        Documentation.customSection first.registry entry.1 entry.2 := by
    apply List.flatMap_congr
    intro entry hentry
    have hname := mem_definedNames_of_mem_keys (List.mem_map_of_mem hentry)
    simp only [Documentation.customSection, Registry.validator?,
      hagree.get?_eq entry.1 (Or.inl hname)]
  simp only [Documentation.page, Documentation.lines, hothers]
  rw [hsections]

theorem result_eq (hagree : AgreeFor program first second)
    (hothers : second.registry.components.filter
        (fun entry => !Entries.has (definitionsByName program) entry.1) =
      first.registry.components.filter
        fun entry => !Entries.has (definitionsByName program) entry.1)
    (checks : List Check) :
    second.result program checks = first.result program checks := by
  simp only [result, hagree.generator_eq, hagree.settings_eq,
    hagree.page_eq hothers]

end AgreeFor

section Answers

variable {first second : Compiler} {program : Program}
  (hagree : AgreeFor program (first.defineAll program.definitions)
    (second.defineAll program.definitions))

include hagree

theorem conclusion_eq_of_agree :
    Check.conclusion second.settings.strict (second.reachableChecks program)
        (second.interruptingComparison? program) =
      Check.conclusion first.settings.strict (first.reachableChecks program)
        (first.interruptingComparison? program) := by
  have hsettings : second.settings = first.settings := by
    simpa only [defineAll_settings] using hagree.settings_eq
  have hcomparison : second.interruptingComparison? program =
      first.interruptingComparison? program := by
    rw [interruptingComparison?, hagree.interrupted_eq, interruptingComparison?]
  have hchecks : second.reachableChecks program =
      first.reachableChecks program := by
    obtain ⟨after, hafter⟩ := Check.exists_eq_interrupted_append
      (first.defineAll program.definitions).registry program.nodes
    simp only [reachableChecks, hagree.interrupted_eq]
    apply hagree.filterMap_ofNode_eq
    intro node hnode
    rw [hafter]
    exact List.mem_append_left _ hnode
  rw [hsettings, hcomparison, hchecks]

variable {source : Source} {log : Log}
  (hload : source.load = .ok (program, log))

include hload

private theorem answer_withoutDocumentation_eq :
    (second.answer source).map CompilationResult.withoutDocumentation =
      (first.answer source).map CompilationResult.withoutDocumentation := by
  rw [answer_eq_conclusion hload, answer_eq_conclusion hload,
    conclusion_eq_of_agree hagree]
  cases Check.conclusion first.settings.strict (first.reachableChecks program)
      (first.interruptingComparison? program) with
  | error stop => simp only [Except.map]
  | ok checks =>
      simp only [Except.map, hagree.result_withoutDocumentation_eq]

private theorem answer_eq
    (hothers : (second.defineAll program.definitions).registry.components.filter
        (fun entry => !Entries.has (definitionsByName program) entry.1) =
      (first.defineAll program.definitions).registry.components.filter
        fun entry => !Entries.has (definitionsByName program) entry.1) :
    second.answer source = first.answer source := by
  rw [answer_eq_conclusion hload, answer_eq_conclusion hload,
    conclusion_eq_of_agree hagree]
  cases Check.conclusion first.settings.strict (first.reachableChecks program)
      (first.interruptingComparison? program) with
  | error stop => simp only [Except.map]
  | ok checks => simp only [Except.map, hagree.result_eq hothers]

end Answers

/-! ## An earlier program -/

variable {earlier later : Program}

theorem has_definitionsByName {name : String}
    (hname : name ∈ later.definedNames) :
    Entries.has (definitionsByName later) name = true := by
  apply Entries.get?_setAll_isSome
  simpa [Entries.keys, Program.definedNames] using hname

/-- The earlier program does not show to the later one where it defines nothing
else that the later one uses. -/
theorem agreeFor_defineAll
    (hforeign : ∀ name ∈ earlier.definedNames,
      name ∉ later.definedNames → name ∉ later.elementTags)
    (compiler : Compiler) :
    AgreeFor later (compiler.defineAll later.definitions)
      ((compiler.defineAll earlier.definitions).defineAll
        later.definitions) := by
  constructor
  · simp only [defineAll_settings]
  · simp only [defineAll_eq]
  · intro name hused
    rw [components_defineAll, components_defineAll, components_defineAll,
      schemaPairs_defineAll]
    by_cases hlater : name ∈ later.definedNames
    · apply Entries.get?_setAll_of_mem
      rw [keys_schemaPairs]
      exact hlater
    · have htag : name ∈ later.elementTags := hused.resolve_left hlater
      have hearlier : name ∉ earlier.definedNames := by
        intro hearlier
        exact hforeign name hearlier hlater htag
      have hlaterKey :
          name ∉ Entries.keys (compiler.schemaPairs later.definitions) := by
        rw [keys_schemaPairs]
        exact hlater
      have hearlierKey :
          name ∉ Entries.keys (compiler.schemaPairs earlier.definitions) := by
        rw [keys_schemaPairs]
        exact hearlier
      rw [Entries.get?_setAll_of_notMem hlaterKey,
        Entries.get?_setAll_of_notMem hearlierKey,
        Entries.get?_setAll_of_notMem hlaterKey]

/-- Components that the later program defines anew do not show among those that
it does not define. -/
theorem filter_components_defineAll
    (hsubset : ∀ name ∈ earlier.definedNames, name ∈ later.definedNames)
    (compiler : Compiler) :
    ((compiler.defineAll earlier.definitions).defineAll
        later.definitions).registry.components.filter
        (fun entry => !Entries.has (definitionsByName later) entry.1) =
      (compiler.defineAll later.definitions).registry.components.filter
        fun entry => !Entries.has (definitionsByName later) entry.1 := by
  have hdefined : ∀ name ∈ later.definedNames,
      (!Entries.has (definitionsByName later) name) = false := by
    intro name hname
    rw [has_definitionsByName hname, Bool.not_true]
  have hlater : ∀ name ∈ Entries.keys (compiler.schemaPairs later.definitions),
      (!Entries.has (definitionsByName later) name) = false := by
    rw [keys_schemaPairs]
    exact hdefined
  have hearlier :
      ∀ name ∈ Entries.keys (compiler.schemaPairs earlier.definitions),
        (!Entries.has (definitionsByName later) name) = false := by
    rw [keys_schemaPairs]
    intro name hname
    exact hdefined name (hsubset name hname)
  rw [components_defineAll, components_defineAll, components_defineAll,
    schemaPairs_defineAll, Entries.filter_setAll hlater,
    Entries.filter_setAll hearlier, Entries.filter_setAll hlater]

/-! ## An earlier compilation -/

section Later

variable {compiler : Compiler} {later : Source}

theorem answer_withoutDocumentation_defineAll
    (hforeign : ∀ name ∈ earlier.definedNames,
      name ∉ later.content.definedNames → name ∉ later.content.elementTags) :
    ((compiler.defineAll earlier.definitions).answer later).map
        CompilationResult.withoutDocumentation =
      (compiler.answer later).map CompilationResult.withoutDocumentation := by
  cases hload : later.load with
  | error error =>
      rw [answer_of_load_error hload, answer_of_load_error hload]
  | ok loaded =>
      obtain ⟨program, log⟩ := loaded
      rw [Source.content_of_load hload] at hforeign
      exact answer_withoutDocumentation_eq
        (agreeFor_defineAll hforeign compiler) hload

theorem answer_defineAll
    (hsubset : ∀ name ∈ earlier.definedNames,
      name ∈ later.content.definedNames) :
    (compiler.defineAll earlier.definitions).answer later =
      compiler.answer later := by
  cases hload : later.load with
  | error error =>
      rw [answer_of_load_error hload, answer_of_load_error hload]
  | ok loaded =>
      obtain ⟨program, log⟩ := loaded
      rw [Source.content_of_load hload] at hsubset
      have hforeign : ∀ name ∈ earlier.definedNames,
          name ∉ program.definedNames → name ∉ program.elementTags := by
        intro name hearlier hlater
        exact absurd (hsubset name hearlier) hlater
      exact answer_eq (agreeFor_defineAll hforeign compiler) hload
        (filter_components_defineAll hsubset compiler)

end Later

end Compiler

namespace Session

/-- Compiling a source after an earlier one gives what it gives without that,
apart from the documentation, unless one of its elements is called after a
component that only the earlier program defines.  The documentation is the same
too if the earlier program defines no component that the later one does not
define.  So compiling a source twice gives the same both times, and the second
time leaves the compiler as it is.  Hooks may watch all this, but raise nothing
that is not caught. -/
theorem compile_after_compilation {session : Session}
    (htame : session.hooks.Tame) (earlier later : Source) :
    let after := (session.compile earlier).2
    ((∀ name ∈ earlier.content.definedNames,
        name ∉ later.content.definedNames →
          name ∉ later.content.elementTags) →
      (after.compile later).1.map CompilationResult.withoutDocumentation =
        (session.compile later).1.map
          CompilationResult.withoutDocumentation) ∧
    ((∀ name ∈ earlier.content.definedNames,
        name ∈ later.content.definedNames) →
      (after.compile later).1 = (session.compile later).1) ∧
    (after.compile earlier).1 = (session.compile earlier).1 ∧
    (after.compile earlier).2.compiler = after.compiler := by
  intro after
  have huncut := uncut_of_tame htame
  have huncut' : ∀ source, after.Uncut source :=
    uncut_of_tame (tame_compile htame earlier)
  have hafter : after.compiler =
      session.compiler.defineAll earlier.content.definitions :=
    compile_compiler (huncut earlier)
  have hanswer : ∀ source, (after.compile source).1 =
      (session.compiler.defineAll earlier.content.definitions).answer
        source := by
    intro source
    rw [compile_fst (huncut' source), hafter]
  refine ⟨?_, ?_, ?_, ?_⟩
  · intro hforeign
    rw [hanswer, compile_fst (huncut later),
      Compiler.answer_withoutDocumentation_defineAll hforeign]
  · intro hsubset
    rw [hanswer, compile_fst (huncut later), Compiler.answer_defineAll hsubset]
  · rw [hanswer, compile_fst (huncut earlier),
      Compiler.answer_defineAll fun _ hname => hname]
  · rw [compile_compiler (huncut' earlier), hafter,
      Compiler.defineAll_defineAll_self]

/-- A page that defines a card and leaves out the title of the one it shows. -/
def untitledCard : Source :=
  .program
    { definitions :=
        [{ name := "Card"
           params := [{ name := "title" }]
           body := [.element "Text" [("text", .expression (.of "title"))] []] }]
      body := [.element "Card" [] []] }

def greeting : Source :=
  .program { body := [.element "Text" [("text", .text "Welcome")] []] }

/-- A strict compiler that writes documentation and knows texts only. -/
def strictSession : Session :=
  { compiler :=
      { settings := { strict := true, documentation := true }
        registry := { components := [("Text", [("text", .string {} {})])] } } }

/-- The card is refused, and yet stays in the registry: the page after it has
the same code and another documentation. -/
theorem greeting_after_untitledCard :
    let after := (strictSession.compile untitledCard).2
    Compiler.refused? (strictSession.compile untitledCard).1 = some "Card" ∧
      (after.compile greeting).1.isOk = true ∧
      (after.compile greeting).1.map CompilationResult.withoutDocumentation =
        (strictSession.compile greeting).1.map
          CompilationResult.withoutDocumentation ∧
      (after.compile greeting).1.toOption.map
          CompilationResult.documentation ≠
        (strictSession.compile greeting).1.toOption.map
          CompilationResult.documentation := by
  intro after
  refine ⟨by decide +kernel, by decide +kernel, ?_, by decide +kernel⟩
  have htame : strictSession.hooks.Tame := Hooks.tame_empty
  apply (compile_after_compilation htame untitledCard greeting).1
  decide +kernel

end Session
end ViewCompiler
