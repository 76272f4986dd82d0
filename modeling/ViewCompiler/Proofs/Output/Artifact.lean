import ViewCompiler.Proofs.Compilation.Answer
import ViewCompiler.Proofs.Files

/-!
# The files of a result

The name of a component is an identifier, so the name of its file has no slash
in it and leads to a file right in the directory.  It is never the name of the
page on the components, which is there exactly if the settings ask for it.
-/

namespace ViewCompiler

/-! ## Names without slashes -/

namespace Location

theorem splitNames_of_no_slash {chars : List Char} (hslash : '/' ∉ chars) :
    splitNames chars = [chars] := by
  induction chars with
  | nil => rfl
  | cons c rest ih =>
      rw [List.mem_cons, not_or] at hslash
      rw [splitNames, if_neg (Ne.symm hslash.1), ih hslash.2]

theorem readAnchor_of_no_slash {chars : List Char} (hslash : '/' ∉ chars) :
    readAnchor chars = .workingDirectory := by
  unfold readAnchor
  split <;> simp_all

/-- A name without slashes is a location by itself. -/
theorem read_of_no_slash {name : String} (hslash : '/' ∉ name.toList)
    (hempty : name ≠ "") (hdot : name ≠ ".") :
    read name = { names := [name] } := by
  rw [read, splitNames_of_no_slash hslash, readAnchor_of_no_slash hslash]
  simp [hempty, hdot]

end Location

private theorem slash_not_mem_of_isIdentifier {text : String}
    (hidentifier : Text.isIdentifier text = true) : '/' ∉ text.toList := by
  have hstart : Text.inRuns '/'.toNat Text.identifierStartRuns = false := by
    decide
  have hrest : Text.inRuns '/'.toNat Text.identifierRuns = false := by decide
  unfold Text.isIdentifier at hidentifier
  split at hidentifier
  · contradiction
  · rename_i first rest htext
    rw [Bool.and_eq_true, List.all_eq_true] at hidentifier
    rw [htext, List.mem_cons, not_or]
    refine ⟨?_, fun hmem => ?_⟩
    · rintro rfl
      rw [hstart] at hidentifier
      exact absurd hidentifier.1 (by decide)
    · have hslash := hidentifier.2 '/' hmem
      rw [hrest] at hslash
      contradiction

/-! ## The name of the file -/

namespace Settings

/-- The name of the file that the code is written to. -/
def fileName (settings : Settings) : String :=
  settings.componentName ++ if settings.typescript then ".tsx" else ".jsx"

private theorem getLast?_fileName (settings : Settings) :
    settings.fileName.toList.getLast? = some 'x' := by
  rw [fileName, String.toList_append]
  cases settings.typescript with
  | false => simp
  | true => simp

theorem fileName_ne {settings : Settings} {name : String}
    (hlast : name.toList.getLast? ≠ some 'x') : settings.fileName ≠ name := by
  rintro rfl
  exact hlast settings.getLast?_fileName

theorem read_fileName {settings : Settings}
    (hname : isComponentName settings.componentName = true) :
    Location.read settings.fileName = { names := [settings.fileName] } := by
  rw [isComponentName, Bool.and_eq_true] at hname
  have hslash := slash_not_mem_of_isIdentifier hname.1
  refine Location.read_of_no_slash ?_ (fileName_ne (by decide))
    (fileName_ne (by decide))
  rw [fileName, String.toList_append, List.mem_append, not_or]
  refine ⟨hslash, ?_⟩
  cases settings.typescript with
  | false => decide
  | true => decide

/-- The names and texts of the files for a result. -/
def outputs (settings : Settings) (result : CompilationResult) :
    Entries String :=
  (settings.fileName, result.code) ::
    result.documentation.toList.map fun page => ("ComponentDocs.md", page)

theorem nodup_keys_outputs (settings : Settings) (result : CompilationResult) :
    (Entries.keys (settings.outputs result)).Nodup := by
  have hname : settings.fileName ≠ "ComponentDocs.md" :=
    fileName_ne (by decide)
  cases hpage : result.documentation with
  | none => simp [outputs, Entries.keys, hpage]
  | some page => simp [outputs, Entries.keys, hpage, hname]

theorem keys_outputs_ne (settings : Settings) (result : CompilationResult) :
    ∀ name ∈ Entries.keys (settings.outputs result), name ≠ ".." := by
  have hname : settings.fileName ≠ ".." := fileName_ne (by decide)
  cases hpage : result.documentation with
  | none => simp [outputs, Entries.keys, hpage, hname]
  | some page => simp [outputs, Entries.keys, hpage, hname]

end Settings

/-! ## What a compilation gives -/

theorem Documentation.page_ne_empty (registry : Registry)
    (custom : Entries Definition) : page registry custom ≠ "" := by
  have hlines : ∃ rest, lines registry custom =
      "# UIX Component Documentation" :: "" :: rest := ⟨_, rfl⟩
  obtain ⟨rest, hlines⟩ := hlines
  rw [page, hlines, String.intercalate_cons_cons]
  intro hempty
  have hchars := congrArg String.toList hempty
  simp at hchars

namespace Compiler

variable {compiler : Compiler} {program : Program} {result : CompilationResult}

theorem fileName_of_outcome
    (houtcome : (compiler.compile program).outcome = .ok result) :
    result.fileName = compiler.settings.componentName ++
      compiler.settings.format.fileExtension := by
  obtain ⟨checks, rfl⟩ := exists_checks_of_outcome_eq_ok houtcome
  rw [← defineAll_settings compiler program.definitions]
  rfl

/-- There is a page exactly if it was asked for, and it is not empty. -/
theorem documentation_of_outcome
    (houtcome : (compiler.compile program).outcome = .ok result) :
    result.documentation.isSome = compiler.settings.documentation ∧
      ∀ page ∈ result.documentation, page ≠ "" := by
  obtain ⟨checks, rfl⟩ := exists_checks_of_outcome_eq_ok houtcome
  rw [← defineAll_settings compiler program.definitions]
  generalize compiler.defineAll program.definitions = defined
  cases hpage : defined.settings.documentation with
  | false => simp [Compiler.result, hpage]
  | true => simp [Compiler.result, hpage, Documentation.page_ne_empty]

theorem artifacts_of_outcome
    (houtcome : (compiler.compile program).outcome = .ok result)
    (hname : Settings.isComponentName compiler.settings.componentName = true)
    (hformat : compiler.settings.format =
      if compiler.settings.typescript then .tsx else .jsx)
    (directory : Location) :
    result.artifacts directory =
      Files.artifactsIn directory (compiler.settings.outputs result) := by
  have hfileName : result.fileName = compiler.settings.fileName := by
    rw [fileName_of_outcome houtcome, Settings.fileName, hformat]
    cases compiler.settings.typescript with
    | false => rfl
    | true => rfl
  have hlocation : directory.join (Location.read result.fileName) =
      Files.inDirectory directory compiler.settings.fileName := by
    rw [hfileName, Settings.read_fileName hname, Files.inDirectory]
  have hpages := (documentation_of_outcome houtcome).2
  rw [CompilationResult.artifacts, hlocation, Settings.outputs,
    Files.artifactsIn]
  cases hpage : result.documentation with
  | none => simp
  | some page =>
      have hempty : page ≠ "" := hpages page (by simp [hpage])
      have hkept : (some page).filter (!·.isEmpty) = some page := by
        simp [Option.filter, hempty]
      simp only [hkept]
      rfl

end Compiler

end ViewCompiler
