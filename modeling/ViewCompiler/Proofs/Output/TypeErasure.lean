import ViewCompiler.Proofs.Compilation.Independence

/-!
# Typed modules erase to untyped ones

The typed form of a module is the untyped form with interfaces in front and with
the type of the argument in every signature.  The lines of the two forms after
the interfaces stand one to one, and the pairs of lines that differ are, in
order, the signatures of the default export and of the definitions.
-/

namespace ViewCompiler
namespace Generator

/-- The signature of a component, at a depth and after a keyword. -/
structure Signature where
  depth : Nat
  keyword : String
  component : String
  parameters : List String

namespace Signature

/-- The text up to the end of the destructured parameters. -/
def start (signature : Signature) : String :=
  signature.keyword ++ " " ++ signature.component ++ "(" ++
    destructure signature.parameters

def untypedLine (signature : Signature) : Line :=
  ⟨signature.depth, signature.start ++ ") \x7b"⟩

def typedLine (signature : Signature) : Line :=
  ⟨signature.depth,
    signature.start ++ (": " ++ (signature.component ++ "Props")) ++ ") \x7b"⟩

theorem typedLine_ne_untypedLine (signature : Signature) :
    signature.typedLine ≠ signature.untypedLine := by
  intro heq
  have htext := congrArg (fun line => line.text.length) heq
  simp only [typedLine, untypedLine, String.length_append] at htext
  have hcolon : (": " : String).length = 2 := by decide
  omega

end Signature

/-- The lines of two modules stand one to one, and the pairs of lines that differ
are the typed and untyped forms of the signatures, in order. -/
structure Erases (signatures : List Signature) (typed untyped : List Line) :
    Prop where
  length_eq : typed.length = untyped.length
  differing :
    (typed.zip untyped).filter (fun pair => decide (pair.1 ≠ pair.2)) =
      signatures.map fun signature =>
        (signature.typedLine, signature.untypedLine)

namespace Erases

variable {first second : List Signature}
  {typed typed' untyped untyped' : List Line}

theorem refl (lines : List Line) : Erases [] lines lines := by
  refine ⟨rfl, ?_⟩
  induction lines with
  | nil => rfl
  | cons line rest ih => simpa using ih

theorem signature (signature : Signature) :
    Erases [signature] [signature.typedLine] [signature.untypedLine] := by
  refine ⟨rfl, ?_⟩
  simp [signature.typedLine_ne_untypedLine]

theorem append (hfirst : Erases first typed untyped)
    (hsecond : Erases second typed' untyped') :
    Erases (first ++ second) (typed ++ typed') (untyped ++ untyped') := by
  constructor
  · rw [List.length_append, List.length_append, hfirst.length_eq,
      hsecond.length_eq]
  · rw [List.zip_append hfirst.length_eq, List.filter_append,
      hfirst.differing, hsecond.differing, List.map_append]

theorem flatMap {α : Type} (items : List α) {signatureOf : α → Signature}
    {typedOf untypedOf : α → List Line}
    (hitems : ∀ item, Erases [signatureOf item] (typedOf item)
      (untypedOf item)) :
    Erases (items.map signatureOf) (items.flatMap typedOf)
      (items.flatMap untypedOf) := by
  induction items with
  | nil => exact refl []
  | cons item rest ih =>
      rw [List.map_cons, List.flatMap_cons, List.flatMap_cons]
      exact (hitems item).append ih

end Erases

/-! ## The two forms of a module -/

def typed (generator : Generator) : Generator :=
  { generator with format := .tsx }

def untyped (generator : Generator) : Generator :=
  { generator with format := .jsx }

def exportSignature (generator : Generator) (parameters : List String) :
    Signature :=
  ⟨0, "export default function", generator.componentName, parameters⟩

def definitionSignature (definition : Definition) : Signature :=
  ⟨1, "function", definition.name, definition.paramNames⟩

theorem signature_jsx (keyword component : String) (parameters : List String)
    (depth : Nat) :
    (⟨depth, Generator.signature .jsx keyword component parameters⟩ : Line) =
      (⟨depth, keyword, component, parameters⟩ : Signature).untypedLine := by
  simp [Generator.signature, argumentType, Signature.untypedLine,
    Signature.start]

private theorem definitionLines_erase (generator : Generator)
    (definition : Definition) :
    Erases [definitionSignature definition]
      (generator.typed.definitionLines definition)
      (generator.untyped.definitionLines definition) := by
  let rest := Markup.renderLines generator.tags definition.body 2 ++
    [⟨1, "\x7d"⟩, ⟨0, ""⟩]
  have htyped : generator.typed.definitionLines definition =
      [(definitionSignature definition).typedLine] ++ rest := rfl
  have huntyped : generator.untyped.definitionLines definition =
      [(definitionSignature definition).untypedLine] ++ rest := by
    simp only [definitionLines, untyped, signature_jsx]
    rfl
  rw [htyped, huntyped]
  exact (Erases.signature _).append (Erases.refl rest)

/-- The signatures of a module: that of the default export, then those of the
definitions. -/
def signatures (generator : Generator) (program : Program)
    (parameters : List String) : List Signature :=
  generator.exportSignature parameters ::
    program.definitions.map definitionSignature

private theorem exportLines_erase (generator : Generator) (program : Program)
    (parameters : List String) (internal : List BindTarget) :
    Erases (generator.signatures program parameters)
      (generator.typed.exportLines program parameters internal)
      (generator.untyped.exportLines program parameters internal) := by
  let rest := Markup.renderLines generator.tags program.body 1 ++
    [⟨0, "\x7d"⟩]
  have htyped : generator.typed.exportLines program parameters internal =
      [(generator.exportSignature parameters).typedLine] ++
        (stateLines internal ++
          (program.definitions.flatMap generator.typed.definitionLines ++
            rest)) := by
    simp only [exportLines, List.append_assoc]
    rfl
  have huntyped : generator.untyped.exportLines program parameters internal =
      [(generator.exportSignature parameters).untypedLine] ++
        (stateLines internal ++
          (program.definitions.flatMap generator.untyped.definitionLines ++
            rest)) := by
    simp only [exportLines, untyped, signature_jsx, List.append_assoc]
    rfl
  have hdefinitions := Erases.flatMap program.definitions
    generator.definitionLines_erase
  have hlines := (Erases.signature (generator.exportSignature parameters)).append
    ((Erases.refl (stateLines internal)).append
      (hdefinitions.append (Erases.refl rest)))
  rw [htyped, huntyped]
  simpa [signatures] using hlines

/-! ## The interfaces -/

/-- The lines are the interface of a component's properties, with one line for
each parameter. -/
def IsInterface (declares : String → String → Prop) (component : String)
    (parameters : List String) (lines : List Line) : Prop :=
  ∃ properties, List.Forall₂ declares parameters properties ∧
    lines = ⟨0, "interface " ++ component ++ "Props \x7b"⟩ ::
      properties.map (fun property => ⟨1, property⟩) ++
        [⟨0, "\x7d"⟩, ⟨0, ""⟩]

/-- The property line of a parameter of the default export. -/
def DeclaresAny (parameter line : String) : Prop :=
  line = parameter ++ ": any;"

/-- The preamble has an interface for each definition, in order, and then one
for the default export. -/
def IsPreamble (generator : Generator) (definitions : List Definition)
    (parameters : List String) (lines : List Line) : Prop :=
  ∃ interfaces exported,
    lines = interfaces.flatten ++ exported ∧
    List.Forall₂ (fun definition => IsInterface DeclaresParameter
      definition.name definition.paramNames) definitions interfaces ∧
    IsInterface DeclaresAny generator.componentName parameters exported

theorem interfaceLines_isInterface {declares : String → String → Prop}
    (component : String) {parameters properties : List String}
    (hproperties : List.Forall₂ declares parameters properties) :
    IsInterface declares component parameters
      (interfaceLines component properties) := by
  refine ⟨properties, hproperties, ?_⟩
  simp [interfaceLines, propsType, String.append_assoc]

private theorem preamble_isPreamble (generator : Generator)
    (definitions : List Definition) (parameters : List String) :
    generator.IsPreamble definitions parameters
      (generator.typed.preamble definitions parameters) := by
  refine ⟨definitions.map generator.typed.definitionInterface,
    interfaceLines generator.componentName (parameters.map (· ++ ": any;")),
    ?_, ?_, ?_⟩
  · rw [← List.flatMap_def]
    rfl
  · rw [List.forall₂_map_right_iff, List.forall₂_same]
    intro definition _
    exact interfaceLines_isInterface definition.name
      (propertyLines_declareParameters _ _)
  · apply interfaceLines_isInterface
    rw [List.forall₂_map_right_iff, List.forall₂_same]
    intro parameter _
    rfl

/-- The typed module is the header, then the interfaces, then lines that stand
one to one with those of the untyped module after the same header and equal
them, except for the signatures of the default export and of the definitions,
which have the name of the interface after the parameters. -/
theorem typed_module_erases_to_untyped (generator : Generator)
    (program : Program) (scan : Binding.Scan)
    (partition : Binding.Partition) :
    let parameters := Binding.parameters scan partition
    ∃ preamble typedLines untypedLines,
      generator.typed.lines program scan partition =
        headerLines ++ preamble ++ typedLines ∧
      generator.untyped.lines program scan partition =
        headerLines ++ untypedLines ∧
      headerLines.length = 3 ∧
      generator.IsPreamble program.definitions parameters preamble ∧
      Erases (generator.signatures program parameters) typedLines
        untypedLines := by
  intro parameters
  refine ⟨generator.typed.preamble program.definitions parameters,
    generator.typed.exportLines program parameters partition.internal,
    generator.untyped.exportLines program parameters partition.internal,
    rfl, ?_, rfl, ?_, ?_⟩
  · simp only [lines, preamble, untyped, List.append_nil]
    rfl
  · exact generator.preamble_isPreamble program.definitions parameters
  · exact generator.exportLines_erase program parameters partition.internal

end Generator
end ViewCompiler
