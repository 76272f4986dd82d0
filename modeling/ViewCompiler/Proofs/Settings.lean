import ViewCompiler.CommandLine.Basic

/-!
# The settings of a run

Every setting of the compile command is what an argument gives, else what the
environment sets, else a default.  That is said here of each setting by itself;
the settings that the command computes are those and no others, and it computes
none exactly if one of the values is not admitted.
-/

namespace ViewCompiler

namespace Environment

/-- The text that a variable is set to. -/
def text? (environment : Environment) (v : Variable) : Option String :=
  Entries.get? environment v.name

/-- The flag that a variable is set to, if its text can be read as one. -/
def flag? (environment : Environment) (v : Variable) : Option Bool :=
  (environment.text? v).bind Variable.readFlag

end Environment

namespace CompileArguments

/-- A flag can only be switched on. -/
def switch (on : Bool) : Option Bool :=
  if on then some true else none

/-- The value for the name of the component. -/
def nameValue (arguments : CompileArguments) (environment : Environment) :
    OptionValue :=
  (arguments.componentName.or
    ((environment.text? .componentName).map .text)).getD (.text "CompiledUI")

/-- The value for the directory that files are written to. -/
def directoryValue (arguments : CompileArguments) (environment : Environment) :
    OptionValue :=
  (arguments.outputDirectory.or
    ((environment.text? .outputDir).map .text)).getD (.text "src")

/-- The settings that arguments and environment come to: what an argument gives,
else what the environment sets, else a default. -/
structure Configure (arguments : CompileArguments) (environment : Environment)
    (settings : Settings) : Prop where
  mode : settings.mode.name = (environment.text? .mode).getD "development"
  format : settings.format = if settings.typescript then .tsx else .jsx
  typescript : settings.typescript =
    ((switch arguments.typescript).or
      (environment.flag? .enableTypescript)).getD false
  documentation : settings.documentation =
    ((switch arguments.documentation).or
      (environment.flag? .enableDocs)).getD false
  strict : settings.strict =
    ((switch arguments.strict).or
      (environment.flag? .strictValidation)).getD false
  componentName :
    arguments.nameValue environment = .text settings.componentName
  isComponentName : Settings.isComponentName settings.componentName = true
  tagOverrides : settings.tagOverrides = []
  customSchemas : settings.customSchemas = []

end CompileArguments

/-! ## Checks of settings -/

namespace Checked

variable {α β : Type}

theorem both_eq_ok_iff {first : Checked α} {second : Checked β}
    {a : α} {b : β} :
    both first second = .ok (a, b) ↔ first = .ok a ∧ second = .ok b := by
  cases first with
  | error errors =>
      cases second with
      | error more => simp [both]
      | ok value => simp [both]
  | ok value =>
      cases second with
      | error more => simp [both]
      | ok other => simp [both]

private theorem bind_eq_ok {checked : Checked α} {next : α → Checked β} {b : β}
    (hbind : (checked >>= next) = .ok b) :
    ∃ a, checked = .ok a ∧ next a = .ok b := by
  cases checked with
  | error errors => contradiction
  | ok a => exact ⟨a, rfl, hbind⟩

end Checked

namespace Settings

open Checked

theorem ofRequest_eq_ok_iff {request : SettingsRequest} {settings : Settings} :
    ofRequest request = .ok settings ↔
      ∃ format,
        orDefault .development (checkChoice "mode" Mode.ofName?) request.mode =
          .ok settings.mode ∧
        orDefault .jsx (checkChoice "output_format" Format.ofName?)
          request.format = .ok format ∧
        orDefault false (checkFlag "enable_typescript") request.typescript =
          .ok settings.typescript ∧
        orDefault false (checkFlag "enable_doc_generation")
          request.documentation = .ok settings.documentation ∧
        orDefault false (checkFlag "strict_validation") request.strict =
          .ok settings.strict ∧
        orDefault "CompiledUI" (checkComponentName "component_name")
          request.componentName = .ok settings.componentName ∧
        orDefault [] (checkTexts "tag_map") request.tagOverrides =
          .ok settings.tagOverrides ∧
        orDefault [] (checkSchemas "custom_schemas") request.customSchemas =
          .ok settings.customSchemas ∧
        settings.format = if settings.typescript then .tsx else format := by
  unfold ofRequest
  constructor
  · intro hrequest
    obtain ⟨⟨⟨mode, format⟩, ⟨typescript, documentation, strict⟩,
      componentName, tagOverrides, customSchemas⟩, hchecks, hsettings⟩ :=
        bind_eq_ok hrequest
    simp only [both_eq_ok_iff] at hchecks
    obtain rfl := Except.ok.inj hsettings
    exact ⟨format, by simp [hchecks]⟩
  · rintro ⟨format, hmode, hformat, htypescript, hdocumentation, hstrict,
      hname, htags, hschemas, hform⟩
    rw [hmode, hformat, htypescript, hdocumentation, hstrict, hname, htags,
      hschemas]
    change Except.ok { settings with
      format := if settings.typescript then .tsx else format } = .ok settings
    rw [← hform]

end Settings

/-! ## What arguments and environment ask for -/

theorem Mode.ofName?_eq_some_iff {name : String} {mode : Mode} :
    ofName? name = some mode ↔ mode.name = name := by
  constructor
  · intro hfound
    simpa using List.find?_some hfound
  · rintro rfl
    cases mode with
    | development => decide
    | production => decide

section Request

variable (environment : Environment)

theorem ofVariable_of_flag {v : Variable} {b : Bool}
    (hdefault : v.default = .flag b) :
    SettingsRequest.ofVariable environment v =
      .bool ((environment.flag? v).getD b) := by
  cases hset : Entries.get? environment v.name with
  | none =>
      simp [SettingsRequest.ofVariable, Variable.value, Environment.flag?,
        Environment.text?, hset, hdefault]
  | some text =>
      simp [SettingsRequest.ofVariable, Variable.value, Environment.flag?,
        Environment.text?, hset, Variable.read, hdefault]

theorem ofVariable_of_text {v : Variable} {s : String}
    (hdefault : v.default = .text s) :
    SettingsRequest.ofVariable environment v =
      .text ((environment.text? v).getD s) := by
  cases hset : Entries.get? environment v.name with
  | none =>
      simp [SettingsRequest.ofVariable, Variable.value, Environment.text?,
        hset, hdefault, VariableValue.display]
  | some text =>
      simp [SettingsRequest.ofVariable, Variable.value, Environment.text?,
        hset, Variable.read, hdefault, VariableValue.display]

theorem present_switch_or (on : Bool) (set : Option Bool) (default : Bool) :
    (SettingsRequest.present (if on then some (.bool true) else none)).or
        (some (.bool (set.getD default))) =
      some (.bool (((CompileArguments.switch on).or set).getD default)) := by
  cases on with
  | false => rfl
  | true => rfl

theorem present_option_or (given : Option OptionValue) (set : Option String)
    (default : String) :
    (SettingsRequest.present (given.map OptionValue.toValue)).or
        (some (.text (set.getD default))) =
      some ((given.or (set.map .text)).getD (.text default)).toValue := by
  cases given with
  | some value =>
      cases value with
      | text s => rfl
      | emptied => rfl
  | none =>
      cases set with
      | none => rfl
      | some s => rfl

end Request

namespace CompileArguments

/-- What the arguments and the environment ask for together. -/
def request (arguments : CompileArguments) (environment : Environment) :
    SettingsRequest :=
  (SettingsRequest.ofEnvironment environment).override
    (Command.overrides arguments)

theorem request_eq (arguments : CompileArguments) (environment : Environment) :
    arguments.request environment =
      { mode := some (.text ((environment.text? .mode).getD "development"))
        typescript := some (.bool (((switch arguments.typescript).or
          (environment.flag? .enableTypescript)).getD false))
        documentation := some (.bool (((switch arguments.documentation).or
          (environment.flag? .enableDocs)).getD false))
        strict := some (.bool (((switch arguments.strict).or
          (environment.flag? .strictValidation)).getD false))
        componentName := some (arguments.nameValue environment).toValue } := by
  unfold request SettingsRequest.override SettingsRequest.ofEnvironment
    Command.overrides
  rw [ofVariable_of_text environment (v := .mode) rfl,
    ofVariable_of_text environment (v := .componentName) rfl,
    ofVariable_of_flag environment (v := .enableTypescript) rfl,
    ofVariable_of_flag environment (v := .enableDocs) rfl,
    ofVariable_of_flag environment (v := .strictValidation) rfl,
    present_switch_or, present_switch_or, present_switch_or, present_option_or]
  rfl

/-- A name is admitted exactly if it is a text and names a component. -/
theorem checkComponentName_toValue_eq_ok_iff {setting name : String}
    {value : OptionValue} :
    Settings.checkComponentName setting value.toValue = .ok name ↔
      value = .text name ∧ Settings.isComponentName name = true := by
  cases value with
  | emptied => simp [OptionValue.toValue, Settings.checkComponentName,
      Checked.refuse]
  | text s =>
      simp only [OptionValue.toValue, Settings.checkComponentName,
        Checked.refuse, OptionValue.text.injEq]
      by_cases hname : Settings.isComponentName s = true
      · rw [if_pos hname, Except.ok.injEq]
        exact ⟨fun heq => ⟨heq, heq ▸ hname⟩, fun heq => heq.1⟩
      · rw [if_neg hname]
        constructor
        · intro herror
          contradiction
        · rintro ⟨rfl, hs⟩
          exact absurd hs hname

theorem checkMode_eq_ok_iff {setting name : String} {mode : Mode} :
    Settings.checkChoice setting Mode.ofName? (.text name) = .ok mode ↔
      mode.name = name := by
  rw [← Mode.ofName?_eq_some_iff, Settings.checkChoice]
  cases Mode.ofName? name with
  | none => simp [Checked.refuse]
  | some found => simp

theorem settings_eq_ok_iff {arguments : CompileArguments}
    {environment : Environment} {settings : Settings} :
    environment.settings (Command.overrides arguments) = .ok settings ↔
      arguments.Configure environment settings := by
  have hrequest : environment.settings (Command.overrides arguments) =
      Settings.ofRequest (arguments.request environment) := rfl
  rw [hrequest, Settings.ofRequest_eq_ok_iff, request_eq]
  simp only [Checked.orDefault, Settings.checkFlag, checkMode_eq_ok_iff,
    checkComponentName_toValue_eq_ok_iff, Except.ok.injEq]
  constructor
  · rintro ⟨format, hmode, rfl, htypescript, hdocumentation, hstrict,
      ⟨hname, hadmitted⟩, htags, hschemas, hform⟩
    exact ⟨hmode, hform, htypescript.symm, hdocumentation.symm, hstrict.symm,
      hname, hadmitted, htags.symm, hschemas.symm⟩
  · intro hsettings
    exact ⟨.jsx, hsettings.mode, rfl, hsettings.typescript.symm,
      hsettings.documentation.symm, hsettings.strict.symm,
      ⟨hsettings.componentName, hsettings.isComponentName⟩,
      hsettings.tagOverrides.symm, hsettings.customSchemas.symm,
      hsettings.format⟩

theorem exists_settings_eq_error_iff {arguments : CompileArguments}
    {environment : Environment} :
    (∃ errors,
      environment.settings (Command.overrides arguments) = .error errors) ↔
      ¬∃ settings, arguments.Configure environment settings := by
  simp only [← settings_eq_ok_iff]
  cases environment.settings (Command.overrides arguments) with
  | error errors => simp
  | ok settings => simp

theorem ownDirectory_eq (environment : Environment) :
    environment.ownDirectory =
      Location.read ((environment.text? .outputDir).getD "src") := by
  cases hset : Entries.get? environment Variable.outputDir.name with
  | none =>
      simp only [Environment.ownDirectory, Variable.value, hset,
        Environment.text?]
      decide
  | some text =>
      simp only [Environment.ownDirectory, Variable.value, hset,
        Environment.text?]
      rfl

/-- The directory for files is the location that its value names. -/
theorem outputDirectory_eq_ok_iff {arguments : CompileArguments}
    {environment : Environment} {directory : Location} :
    environment.outputDirectory
        ((arguments.outputDirectory.map OptionValue.toValue).getD .null) =
        .ok directory ↔
      ∃ text, arguments.directoryValue environment = .text text ∧
        directory = Location.read text := by
  unfold directoryValue
  cases arguments.outputDirectory with
  | none =>
      have hown : environment.outputDirectory .null =
          .ok (Location.read ((environment.text? .outputDir).getD "src")) := by
        rw [← ownDirectory_eq]
        rfl
      cases hset : environment.text? .outputDir with
      | none => simp [hown, hset, eq_comm]
      | some text => simp [hown, hset, eq_comm]
  | some value =>
      cases value with
      | emptied =>
          simp [Environment.outputDirectory, OptionValue.toValue,
            Value.isNull, Location.ofValue]
      | text s =>
          simp [Environment.outputDirectory, OptionValue.toValue,
            Value.isNull, Location.ofValue, eq_comm]

end CompileArguments

end ViewCompiler
