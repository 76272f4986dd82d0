import ViewCompiler.Proofs.Compilation.GivenRegistry
import ViewCompiler.Proofs.Json.Grammar
import ViewCompiler.Proofs.Output.Artifact
import ViewCompiler.Proofs.Settings

/-!
# What the compile command writes

A run of the compile command reads its source, loads it, settles its settings,
compiles, and prints or writes.  Each of these can end it.  A run that ends before
the code is there has printed and written nothing.  A run that ends with zero has
compiled the program of its source with the settings that arguments and
environment come to, and what it prints or writes is the result.

A run that cannot use its source ends with one, except where nothing is said of
the fault: the way to the source leads through a file or is no location at all,
the bytes of the source are no text, or the text breaks behind an integer that is
too long.  Whatever a run ends with, no other file than its own is changed.
-/

namespace ViewCompiler

namespace Program

variable (path : String) {text : String}

private theorem loadText_of_data {data : Json}
    (hdata : Json.read text = .ok data) :
    loadText path text = loadLogged data := by
  rw [loadText, hdata]

private theorem loadText_of_malformed
    (hfault : Json.read text = .error .malformed) :
    loadText path text = .error (.invalidText path) := by
  rw [loadText, hfault]

private theorem loadText_of_longInteger {digits : Nat}
    (hfault : Json.read text = .error (.longInteger digits)) :
    loadText path text = .error (.shape (.longInteger digits)) := by
  rw [loadText, hfault]

private theorem exists_data_of_loadText_eq_ok {loaded : Program × Log}
    (hload : loadText path text = .ok loaded) :
    ∃ data, Json.read text = .ok data ∧ loadLogged data = .ok loaded := by
  unfold loadText at hload
  split at hload
  · rename_i data hdata
    exact ⟨data, hdata, hload⟩
  all_goals contradiction

end Program

/-- A compilation fails exactly if it is strict and an element is refused. -/
theorem Compiler.exists_error_iff {compiler : Compiler} {program : Program} :
    (∃ error, (compiler.compile program).outcome = .error error) ↔
      compiler.settings.strict = true ∧
        (compiler.defineAll program.definitions).registry.refusals
          program.nodes ≠ [] := by
  cases hstrict : compiler.settings.strict with
  | false => simp [Compiler.outcome_of_lenient hstrict]
  | true =>
      have hfirst := Check.firstError_eq_head? (Check.all
        (compiler.defineAll program.definitions).registry program)
      rw [Check.all, Check.filterMap_refusal?_ofNode] at hfirst
      cases hrefusals : (compiler.defineAll program.definitions).registry.refusals
          program.nodes with
      | nil =>
          rw [hrefusals] at hfirst
          simp [Compiler.outcome_of_no_error hstrict hfirst]
      | cons refusal rest =>
          rw [hrefusals] at hfirst
          simp [Compiler.outcome_of_firstError hstrict hfirst]

namespace CompileArguments

section Causes

variable (arguments : CompileArguments) (environment : Environment)
  (files : Files)

def sourceLocation : Location :=
  Location.read arguments.source

/-- Nothing stands where the source should be. -/
def SourceMissing : Prop :=
  ∀ path, files.resolve arguments.sourceLocation = .ok path →
    files.at? path = none

/-- The source is a file of these bytes. -/
def SourceHolds (bytes : ByteArray) : Prop :=
  ∃ path, files.resolve arguments.sourceLocation = .ok path ∧
    files.at? path = some (.file bytes)

/-- The source is a file, and it holds no JSON text. -/
def SourceBroken : Prop :=
  ∃ bytes, arguments.SourceHolds files bytes ∧
    ∀ text : String, bytes = text.toUTF8 → ¬Json.IsText text

/-- The source is not refused for half of a surrogate pair that stands alone. -/
def SourcePaired : Prop :=
  ∀ text, files.read arguments.sourceLocation = .ok text →
    Json.read text ≠ .error .loneSurrogate

/-- The source is a file, and loading it ends with an error that says what does
not describe a program. -/
def SourceRefused : Prop :=
  ∃ text error, files.read arguments.sourceLocation = .ok text ∧
    Program.loadText arguments.sourceLocation.text text = .error error ∧
    ∀ fault, error ≠ .shape fault

/-- The source is a file that describes a program. -/
def Loads (program : Program) : Prop :=
  ∃ text data, files.read arguments.sourceLocation = .ok text ∧
    Json.read text = .ok data ∧ Program.load data = .ok program

def SourceUnusable : Prop :=
  arguments.SourceMissing files ∨ arguments.SourceBroken files ∨
    arguments.SourceRefused files

def Misconfigured : Prop :=
  ¬∃ settings, arguments.Configure environment settings

/-- The settings are strict, and the built-in components together with those of
the program refuse one of its elements. -/
def FailsStrictly : Prop :=
  ∃ program settings compiler, arguments.Loads files program ∧
    arguments.Configure environment settings ∧ settings.strict = true ∧
    (Compiler.create settings).1 = .ok compiler ∧
    (compiler.defineAll program.definitions).registry.refusals
      program.nodes ≠ []

def Stops : Prop :=
  arguments.SourceUnusable files ∨ arguments.Misconfigured environment ∨
    arguments.FailsStrictly environment files

/-- Compiling the program of the source with the settings gives the result. -/
def Produces (settings : Settings) (result : CompilationResult) : Prop :=
  ∃ program compiler, arguments.Loads files program ∧
    arguments.Configure environment settings ∧
    (Compiler.create settings).1 = .ok compiler ∧
    compiler.answer (.program program) = .ok result

/-- The source is missing or broken, and nothing is said of the fault: the way to
it leads through a file or is no location, its bytes are no text, or its text goes
wrong only behind an integer that is too long. -/
def Unreported : Prop :=
  (∃ fault, files.resolve arguments.sourceLocation = .error fault ∧
    fault ≠ .notFound) ∨
  (∃ bytes, arguments.SourceHolds files bytes ∧
    ∀ text : String, bytes ≠ text.toUTF8) ∨
  ∃ text digits, files.read arguments.sourceLocation = .ok text ∧
    ¬Json.IsText text ∧ Json.read text = .error (.longInteger digits)

/-- The run that the arguments ask for. -/
def run : CommandRun :=
  (Command.compileSource arguments environment
    (files.read arguments.sourceLocation)).perform files
      ((Command.compile arguments).threshold environment)

end Causes

variable {arguments : CompileArguments} {environment : Environment}
  {files : Files}

private theorem run_of_taken {rest : List String}
    (htaken : CompileArguments.read rest = .taken arguments) :
    CommandRun.of ("compile" :: rest) environment files =
      arguments.run environment files := by
  have hcommand : Command.read ("compile" :: rest) = .compile arguments := by
    rw [Command.read, htaken]
  rw [CommandRun.of, hcommand]
  rfl

/-! ## The parts of a run -/

theorem SourceHolds.eq_toUTF8 {bytes : ByteArray} {text : String}
    (hbytes : arguments.SourceHolds files bytes)
    (hread : files.read arguments.sourceLocation = .ok text) :
    bytes = text.toUTF8 := by
  obtain ⟨path, hpath, hfile⟩ := hbytes
  obtain ⟨other, hother, htext⟩ := Files.read_eq_ok_iff.mp hread
  rw [hpath] at hother
  obtain rfl := Except.ok.inj hother
  rw [hfile] at htext
  exact Content.file.inj (Option.some.inj htext)

theorem sourceBroken_of_text {text : String}
    (hread : files.read arguments.sourceLocation = .ok text)
    (hbroken : ¬Json.IsText text) : arguments.SourceBroken files := by
  refine ⟨text.toUTF8, Files.read_eq_ok_iff.mp hread, ?_⟩
  intro other hother
  rwa [← String.toByteArray_inj.mp hother]

/-- Bytes are read as their text, or they have none. -/
theorem SourceHolds.read_cases {bytes : ByteArray}
    (hbytes : arguments.SourceHolds files bytes) :
    (∃ text, bytes = text.toUTF8 ∧
      files.read arguments.sourceLocation = .ok text) ∨
    (∀ text : String, bytes ≠ text.toUTF8) ∧
      ∃ fault, files.read arguments.sourceLocation =
        .error ⟨.undecodable fault, arguments.sourceLocation⟩ := by
  obtain ⟨path, hpath, hfile⟩ := hbytes
  have hread := Files.read_of_file hpath hfile
  cases hdecode : Utf8.decode bytes with
  | ok text =>
      rw [hdecode] at hread
      exact Or.inl ⟨text, Utf8.decode_eq_ok_iff.mp hdecode, hread⟩
  | error fault =>
      rw [hdecode] at hread
      refine Or.inr ⟨?_, fault, hread⟩
      intro text htext
      rw [Utf8.decode_eq_ok_iff.mpr htext] at hdecode
      contradiction

theorem loads_iff {program : Program} :
    arguments.Loads files program ↔
      ∃ text log, files.read arguments.sourceLocation = .ok text ∧
        Program.loadText arguments.sourceLocation.text text =
          .ok (program, log) := by
  constructor
  · rintro ⟨text, data, hread, hdata, hload⟩
    rw [Program.load] at hload
    cases hlogged : Program.loadLogged data with
    | error error =>
        rw [hlogged] at hload
        contradiction
    | ok loaded =>
        rw [hlogged] at hload
        obtain rfl : loaded.1 = program := Except.ok.inj hload
        refine ⟨text, loaded.2, hread, ?_⟩
        rw [Program.loadText_of_data _ hdata, hlogged]
  · rintro ⟨text, log, hread, hload⟩
    obtain ⟨data, hdata, hlogged⟩ := Program.exists_data_of_loadText_eq_ok _ hload
    refine ⟨text, data, hread, hdata, ?_⟩
    rw [Program.load, hlogged]
    rfl

/-- The compiler of a run. -/
def builtinCompiler (settings : Settings) : Compiler :=
  { settings, registry := Builtin.registry }

theorem Configure.create_eq {settings : Settings}
    (hsettings : arguments.Configure environment settings) :
    (Compiler.create settings).1 = .ok (builtinCompiler settings) :=
  Compiler.create_of_no_declared hsettings.customSchemas none

theorem answer_builtinCompiler (settings : Settings) (program : Program) :
    (builtinCompiler settings).answer (.program program) =
      ((builtinCompiler settings).compile program).outcome.mapError
        .failed := by
  have hnumeric : (builtinCompiler settings).hasNumericBounds = true := by
    have hbuiltin : (Builtin.registry.components.all fun entry =>
        Schema.propertiesHaveNumericBounds entry.2) = true := by
      decide +kernel
    rw [Compiler.hasNumericBounds, Bool.and_eq_true]
    exact ⟨hbuiltin, rfl⟩
  exact Compiler.answer_of_load rfl (Compiler.interruption?_eq_none
    (Compiler.interruptingComparison?_eq_none hnumeric program))

theorem produces_iff {settings : Settings} {result : CompilationResult} :
    arguments.Produces environment files settings result ↔
      ∃ program, arguments.Loads files program ∧
        arguments.Configure environment settings ∧
        ((builtinCompiler settings).compile program).outcome =
          .ok result := by
  have houtcome : ∀ program,
      (builtinCompiler settings).answer (.program program) = .ok result ↔
        ((builtinCompiler settings).compile program).outcome =
          .ok result := by
    intro program
    rw [answer_builtinCompiler]
    cases ((builtinCompiler settings).compile program).outcome with
    | error error => simp [Except.mapError]
    | ok found => simp [Except.mapError]
  constructor
  · rintro ⟨program, compiler, hloads, hsettings, hcreate, hanswer⟩
    rw [hsettings.create_eq] at hcreate
    obtain rfl := Except.ok.inj hcreate
    exact ⟨program, hloads, hsettings, (houtcome program).mp hanswer⟩
  · rintro ⟨program, hloads, hsettings, hresult⟩
    exact ⟨program, _, hloads, hsettings, hsettings.create_eq,
      (houtcome program).mpr hresult⟩

theorem failsStrictly_iff :
    arguments.FailsStrictly environment files ↔
      ∃ program settings, arguments.Loads files program ∧
        arguments.Configure environment settings ∧
        ∃ error, ((builtinCompiler settings).compile program).outcome =
          .error error := by
  simp only [Compiler.exists_error_iff]
  constructor
  · rintro ⟨program, settings, compiler, hloads, hsettings, hstrict, hcreate,
      hrefusals⟩
    rw [hsettings.create_eq] at hcreate
    obtain rfl := Except.ok.inj hcreate
    exact ⟨program, settings, hloads, hsettings, hstrict, hrefusals⟩
  · rintro ⟨program, settings, hloads, hsettings, hstrict, hrefusals⟩
    exact ⟨program, settings, _, hloads, hsettings, hstrict,
      hsettings.create_eq, hrefusals⟩

/-! ## The ends of a run -/

/-- The run has this end, and nothing was printed or written. -/
structure EndsSilently (arguments : CompileArguments)
    (environment : Environment) (files : Files) (ending : Ending) : Prop where
  ending_eq : (arguments.run environment files).ending = ending
  files_eq : (arguments.run environment files).files = files
  stdout_eq : (arguments.run environment files).stdout = ""

theorem EndsSilently.unchanged {ending : Ending}
    (hsilent : arguments.EndsSilently environment files ending)
    (hending : ending ≠ .exit 0) :
    let run := arguments.run environment files
    run.files = files ∧ run.stdout = "" ∧ run.ending ≠ .exit 0 := by
  refine ⟨hsilent.files_eq, hsilent.stdout_eq, ?_⟩
  rw [hsilent.ending_eq]
  exact hending

theorem endsSilently_of_effects {ending : Ending}
    (heffects : ∃ log, Command.compileSource arguments environment
      (files.read arguments.sourceLocation) = { ending, log }) :
    arguments.EndsSilently environment files ending := by
  obtain ⟨log, heffects⟩ := heffects
  have hrun : arguments.run environment files =
      ({ ending, log } : Effects).perform files
        ((Command.compile arguments).threshold environment) := by
    rw [run, heffects]
  exact ⟨by rw [hrun]; rfl, by rw [hrun]; rfl, by rw [hrun]; rfl⟩

theorem endsSilently_of_notFound {location : Location}
    (hread : files.read arguments.sourceLocation =
      .error ⟨.notFound, location⟩) :
    arguments.EndsSilently environment files (.exit 1) := by
  apply endsSilently_of_effects
  rw [hread]
  exact ⟨_, rfl⟩

theorem endsSilently_of_unread {error : FileError}
    (hread : files.read arguments.sourceLocation = .error error)
    (hfault : error.fault ≠ .notFound) :
    arguments.EndsSilently environment files (.refusedFile error) := by
  apply endsSilently_of_effects
  rw [hread]
  obtain ⟨fault, location⟩ := error
  cases fault with
  | notFound => exact absurd rfl hfault
  | _ => exact ⟨_, rfl⟩

section Read

variable {text : String}
  (hread : files.read arguments.sourceLocation = .ok text)

include hread

theorem endsSilently_of_shape {fault : ShapeFault}
    (hload : Program.loadText arguments.sourceLocation.text text =
      .error (.shape fault)) :
    arguments.EndsSilently environment files (.unreadableProgram fault) := by
  apply endsSilently_of_effects
  rw [sourceLocation] at hload
  simp only [hread, Command.compileSource, hload]
  exact ⟨_, rfl⟩

theorem endsSilently_of_refused {error : LoadError}
    (hload : Program.loadText arguments.sourceLocation.text text =
      .error error)
    (herror : ∀ fault, error ≠ .shape fault) :
    arguments.EndsSilently environment files (.exit 1) := by
  apply endsSilently_of_effects
  rw [sourceLocation] at hload
  simp only [hread, Command.compileSource, hload]
  cases error with
  | shape fault => exact absurd rfl (herror fault)
  | _ => exact ⟨_, rfl⟩

section Loaded

variable {program : Program} {log : Log}
  (hload : Program.loadText arguments.sourceLocation.text text =
    .ok (program, log))

include hload

theorem compileSource_of_loaded :
    Command.compileSource arguments environment
        (files.read arguments.sourceLocation) =
      Command.compileProgram arguments environment program log := by
  rw [sourceLocation] at hload
  simp only [hread, Command.compileSource, hload]

theorem endsSilently_of_misconfigured {errors : List SettingError}
    (hsettings : environment.settings (Command.overrides arguments) =
      .error errors) :
    arguments.EndsSilently environment files (.refusedSettings errors) := by
  apply endsSilently_of_effects
  rw [compileSource_of_loaded hread hload, Command.compileProgram, hsettings]
  exact ⟨_, rfl⟩

section Configured

variable {settings : Settings}
  (hsettings : environment.settings (Command.overrides arguments) =
    .ok settings)

include hsettings

theorem endsSilently_of_failed {error : CompilationError}
    (houtcome : ((builtinCompiler settings).compile program).outcome =
      .error error) :
    arguments.EndsSilently environment files (.exit 1) := by
  apply endsSilently_of_effects
  rw [builtinCompiler] at houtcome
  rw [compileSource_of_loaded hread hload, Command.compileProgram, hsettings]
  simp only [houtcome]
  exact ⟨_, rfl⟩

/-- With a result, the run is what is done with it. -/
theorem run_of_result {result : CompilationResult}
    (houtcome : ((builtinCompiler settings).compile program).outcome =
      .ok result) :
    ∃ log, arguments.run environment files =
      (Command.deliver arguments environment program result log).perform files
        ((Command.compile arguments).threshold environment) := by
  rw [builtinCompiler] at houtcome
  rw [run, compileSource_of_loaded hread hload, Command.compileProgram,
    hsettings]
  simp only [houtcome]
  exact ⟨_, rfl⟩

end Configured

end Loaded

end Read

/-! ## What is done with a result -/

section Delivery

variable {program : Program} {result : CompilationResult} {log : Log}
  {threshold : Int}

private theorem perform_deliver_of_stdout
    (hstdout : arguments.toStdout = true) :
    let run := (Command.deliver arguments environment program result
      log).perform files threshold
    run.ending = .exit 0 ∧ run.stdout = result.code ∧ run.files = files := by
  simp [Command.deliver, hstdout, Effects.perform]

private theorem perform_deliver_of_directory {directory : Location}
    (hstdout : arguments.toStdout = false)
    (hdirectory : environment.outputDirectory
      ((arguments.outputDirectory.map OptionValue.toValue).getD .null) =
        .ok directory) :
    let run := (Command.deliver arguments environment program result
      log).perform files threshold
    let written := files.writeTo directory (result.artifacts directory)
    run.files = written.1 ∧ run.stdout = "" ∧
      (run.ending = .exit 0 ↔ written.2 = none) := by
  simp only [Command.deliver, hstdout, hdirectory, Effects.perform,
    Bool.false_eq_true, if_false]
  cases hwritten : files.writeTo directory (result.artifacts directory) with
  | mk later refusal =>
      cases refusal with
      | none => simp
      | some error => simp

private theorem perform_deliver_of_fault {fault : LocationFault}
    (hstdout : arguments.toStdout = false)
    (hdirectory : environment.outputDirectory
      ((arguments.outputDirectory.map OptionValue.toValue).getD .null) =
        .error fault) :
    let run := (Command.deliver arguments environment program result
      log).perform files threshold
    run.ending = .refusedDirectory fault ∧ run.stdout = "" ∧
      run.files = files := by
  simp [Command.deliver, hstdout, hdirectory, Effects.perform]

end Delivery

/-! ## Whole runs -/

theorem Loads.unique {first second : Program}
    (hfirst : arguments.Loads files first)
    (hsecond : arguments.Loads files second) : first = second := by
  obtain ⟨text, data, hread, hdata, hload⟩ := hfirst
  obtain ⟨text', data', hread', hdata', hload'⟩ := hsecond
  obtain rfl := Except.ok.inj (hread.symm.trans hread')
  obtain rfl := Except.ok.inj (hdata.symm.trans hdata')
  exact Except.ok.inj (hload.symm.trans hload')

theorem Configure.unique {first second : Settings}
    (hfirst : arguments.Configure environment first)
    (hsecond : arguments.Configure environment second) : first = second := by
  have hsettings := settings_eq_ok_iff.mpr hfirst
  rw [settings_eq_ok_iff.mpr hsecond] at hsettings
  exact (Except.ok.inj hsettings).symm

/-- A run that does not end silently has compiled the program of its source. -/
theorem endsSilently_or_produces (arguments : CompileArguments)
    (environment : Environment) (files : Files) :
    (∃ ending, ending ≠ .exit 0 ∧
      arguments.EndsSilently environment files ending) ∨
      ∃ settings result,
        arguments.Produces environment files settings result := by
  cases hread : files.read arguments.sourceLocation with
  | error error =>
      by_cases hfault : error.fault = .notFound
      · have hnotFound : files.read arguments.sourceLocation =
            .error ⟨.notFound, error.location⟩ := by
          rw [hread, ← hfault]
        exact Or.inl ⟨_, by simp, endsSilently_of_notFound hnotFound⟩
      · exact Or.inl ⟨_, by simp, endsSilently_of_unread hread hfault⟩
  | ok text =>
      cases hload : Program.loadText arguments.sourceLocation.text text with
      | error error =>
          by_cases hshape : ∃ fault, error = .shape fault
          · obtain ⟨fault, rfl⟩ := hshape
            exact Or.inl ⟨_, by simp, endsSilently_of_shape hread hload⟩
          · exact Or.inl ⟨_, by simp, endsSilently_of_refused hread hload
              fun fault heq => hshape ⟨fault, heq⟩⟩
      | ok loaded =>
          obtain ⟨program, log⟩ := loaded
          cases hsettings :
              environment.settings (Command.overrides arguments) with
          | error errors =>
              exact Or.inl ⟨_, by simp,
                endsSilently_of_misconfigured hread hload hsettings⟩
          | ok settings =>
              cases houtcome :
                  ((builtinCompiler settings).compile program).outcome with
              | error error =>
                  exact Or.inl ⟨_, by simp,
                    endsSilently_of_failed hread hload hsettings houtcome⟩
              | ok result =>
                  refine Or.inr ⟨settings, result, produces_iff.mpr ?_⟩
                  exact ⟨program, loads_iff.mpr ⟨text, log, hread, hload⟩,
                    settings_eq_ok_iff.mp hsettings, houtcome⟩

private theorem not_produces_of_stops {settings : Settings}
    {result : CompilationResult} (hstops : arguments.Stops environment files) :
    ¬arguments.Produces environment files settings result := by
  rw [produces_iff]
  rintro ⟨program, hloads, hsettings, houtcome⟩
  obtain ⟨text, data, hread, hdata, hload⟩ := id hloads
  rcases hstops with (hmissing | hbroken | hrefused) | hmisconfigured | hfails
  · obtain ⟨path, hpath, hfile⟩ := Files.read_eq_ok_iff.mp hread
    rw [hmissing path hpath] at hfile
    contradiction
  · obtain ⟨bytes, hbytes, hbroken⟩ := hbroken
    exact hbroken text (hbytes.eq_toUTF8 hread) (Json.isText_of_read hdata)
  · obtain ⟨other, error, hother, herror, -⟩ := hrefused
    obtain ⟨found, log, hfound, hloaded⟩ := loads_iff.mp hloads
    obtain rfl := Except.ok.inj (hfound.symm.trans hother)
    rw [hloaded] at herror
    contradiction
  · exact hmisconfigured ⟨settings, hsettings⟩
  · obtain ⟨other, others, hother, hothers, error, herror⟩ :=
      failsStrictly_iff.mp hfails
    obtain rfl := hloads.unique hother
    obtain rfl := hsettings.unique hothers
    rw [houtcome] at herror
    contradiction

section Produced

variable {settings : Settings} {result : CompilationResult}
  (hproduces : arguments.Produces environment files settings result)

include hproduces

/-- The run is what is done with the result. -/
theorem run_of_produces :
    ∃ program log, arguments.run environment files =
      (Command.deliver arguments environment program result log).perform files
        ((Command.compile arguments).threshold environment) := by
  obtain ⟨program, hloads, hsettings, houtcome⟩ := produces_iff.mp hproduces
  obtain ⟨text, loadLog, hread, hload⟩ := loads_iff.mp hloads
  exact ⟨program, run_of_result hread hload (settings_eq_ok_iff.mpr hsettings)
    houtcome⟩

private theorem run_of_stdout (hstdout : arguments.toStdout = true) :
    let run := arguments.run environment files
    run.ending = .exit 0 ∧ run.stdout = result.code ∧ run.files = files := by
  obtain ⟨program, log, hrun⟩ := run_of_produces hproduces
  rw [hrun]
  exact perform_deliver_of_stdout hstdout

theorem artifacts_of_produces (directory : Location) :
    result.artifacts directory =
      Files.artifactsIn directory (settings.outputs result) := by
  obtain ⟨program, -, hsettings, houtcome⟩ := produces_iff.mp hproduces
  exact Compiler.artifacts_of_outcome houtcome hsettings.isComponentName
    hsettings.format directory

theorem documentation_of_produces :
    result.documentation.isSome = settings.documentation := by
  obtain ⟨program, -, -, houtcome⟩ := produces_iff.mp hproduces
  exact (Compiler.documentation_of_outcome houtcome).1

private theorem run_of_directory {text : String}
    (hstdout : arguments.toStdout = false)
    (htext : arguments.directoryValue environment = .text text) :
    let run := arguments.run environment files
    let written := files.writeTo (Location.read text)
      (Files.artifactsIn (Location.read text) (settings.outputs result))
    run.files = written.1 ∧ run.stdout = "" ∧
      (run.ending = .exit 0 ↔ written.2 = none) := by
  obtain ⟨program, log, hrun⟩ := run_of_produces hproduces
  rw [hrun, ← artifacts_of_produces hproduces]
  exact perform_deliver_of_directory hstdout
    (outputDirectory_eq_ok_iff.mpr ⟨text, htext, rfl⟩)

private theorem exists_directory_of_exit_zero
    (hstdout : arguments.toStdout = false)
    (hending : (arguments.run environment files).ending = .exit 0) :
    ∃ text, arguments.directoryValue environment = .text text := by
  obtain ⟨program, log, hrun⟩ := run_of_produces hproduces
  cases hdirectory : environment.outputDirectory
      ((arguments.outputDirectory.map OptionValue.toValue).getD .null) with
  | error fault =>
      rw [hrun, (perform_deliver_of_fault hstdout hdirectory).1] at hending
      contradiction
  | ok directory =>
      obtain ⟨text, htext, -⟩ := outputDirectory_eq_ok_iff.mp hdirectory
      exact ⟨text, htext⟩

/-- A run that writes prints nothing, and it changes no other file. -/
theorem run_spares (hstdout : arguments.toStdout = false) :
    let run := arguments.run environment files
    run.stdout = "" ∧ (run.files = files ∨
      ∃ text, arguments.directoryValue environment = .text text ∧
        files.Spares run.files (Location.read text)
          (Entries.keys (settings.outputs result))) := by
  cases hdirectory : environment.outputDirectory
      ((arguments.outputDirectory.map OptionValue.toValue).getD .null) with
  | error fault =>
      obtain ⟨program, log, hrun⟩ := run_of_produces hproduces
      obtain ⟨-, hprinted, hfiles⟩ :=
        perform_deliver_of_fault hstdout hdirectory
      rw [hrun]
      exact ⟨hprinted, Or.inl hfiles⟩
  | ok directory =>
      obtain ⟨text, htext, -⟩ := outputDirectory_eq_ok_iff.mp hdirectory
      obtain ⟨hfiles, hprinted, -⟩ := run_of_directory hproduces hstdout htext
      refine ⟨hprinted, Or.inr ⟨text, htext, ?_⟩⟩
      rw [hfiles]
      exact files.writeTo_spares _ _

end Produced

/-! ## The exit code of a run that stops -/

private theorem not_exit_one_of_unreported (environment : Environment)
    (hunreported : arguments.Unreported files) :
    arguments.SourceUnusable files ∧
      (arguments.run environment files).ending ≠ .exit 1 := by
  rcases hunreported with ⟨fault, hresolve, hfault⟩ |
    ⟨bytes, hbytes, hnoText⟩ | ⟨text, digits, hread, hbroken, hdigits⟩
  · have hmissing : arguments.SourceMissing files := by
      intro path hpath
      rw [hresolve] at hpath
      contradiction
    have hread := Files.read_of_resolve_error hresolve
    refine ⟨Or.inl hmissing, ?_⟩
    rw [(endsSilently_of_unread hread hfault).ending_eq]
    simp
  · have hbroken : arguments.SourceBroken files :=
      ⟨bytes, hbytes, fun text htext => absurd htext (hnoText text)⟩
    refine ⟨Or.inr (Or.inl hbroken), ?_⟩
    rcases hbytes.read_cases with ⟨text, htext, -⟩ | ⟨-, fault, hread⟩
    · exact absurd htext (hnoText text)
    · rw [(endsSilently_of_unread hread (by simp)).ending_eq]
      simp
  · refine ⟨Or.inr (Or.inl (sourceBroken_of_text hread hbroken)), ?_⟩
    have hload := Program.loadText_of_longInteger arguments.sourceLocation.text
      hdigits
    rw [(endsSilently_of_shape hread hload).ending_eq]
    simp

private theorem exit_one_of_missing (hmissing : arguments.SourceMissing files)
    (hreported : ¬arguments.Unreported files) :
    (arguments.run environment files).ending = .exit 1 := by
  have hread : files.read arguments.sourceLocation =
      .error ⟨.notFound, arguments.sourceLocation⟩ := by
    cases hresolve : files.resolve arguments.sourceLocation with
    | ok path => exact Files.read_of_at?_none hresolve (hmissing path hresolve)
    | error fault =>
        by_cases hfault : fault = .notFound
        · rw [Files.read_of_resolve_error hresolve, hfault]
        · exact absurd (Or.inl ⟨fault, hresolve, hfault⟩) hreported
  exact (endsSilently_of_notFound hread).ending_eq

private theorem exit_one_of_broken (hpaired : arguments.SourcePaired files)
    (hbroken : arguments.SourceBroken files)
    (hreported : ¬arguments.Unreported files) :
    (arguments.run environment files).ending = .exit 1 := by
  obtain ⟨bytes, hbytes, hbroken⟩ := hbroken
  rcases hbytes.read_cases with ⟨text, htext, hread⟩ | ⟨hnoText, -⟩
  · cases hdata : Json.read text with
    | ok data => exact absurd (Json.isText_of_read hdata) (hbroken text htext)
    | error fault =>
        cases fault with
        | malformed =>
            have hload := Program.loadText_of_malformed
              arguments.sourceLocation.text hdata
            exact (endsSilently_of_refused hread hload (by simp)).ending_eq
        | longInteger digits =>
            refine absurd (Or.inr (Or.inr ?_)) hreported
            exact ⟨text, digits, hread, hbroken text htext, hdata⟩
        | loneSurrogate => exact absurd hdata (hpaired text hread)
  · exact absurd (Or.inr (Or.inl ⟨bytes, hbytes, hnoText⟩)) hreported

private theorem exit_one_of_failsStrictly
    (hfails : arguments.FailsStrictly environment files) :
    (arguments.run environment files).ending = .exit 1 := by
  obtain ⟨program, settings, hloads, hsettings, error, houtcome⟩ :=
    failsStrictly_iff.mp hfails
  obtain ⟨text, log, hread, hload⟩ := loads_iff.mp hloads
  exact (endsSilently_of_failed hread hload (settings_eq_ok_iff.mpr hsettings)
    houtcome).ending_eq

private theorem exit_one_iff_reported (hpaired : arguments.SourcePaired files) :
    (arguments.SourceUnusable files ∨
        arguments.FailsStrictly environment files →
      (arguments.run environment files).ending = .exit 1) ↔
      ¬arguments.Unreported files := by
  constructor
  · intro hexit hunreported
    obtain ⟨hunusable, hending⟩ :=
      not_exit_one_of_unreported environment hunreported
    exact hending (hexit (Or.inl hunusable))
  · rintro hreported ((hmissing | hbroken | hrefused) | hfails)
    · exact exit_one_of_missing hmissing hreported
    · exact exit_one_of_broken hpaired hbroken hreported
    · obtain ⟨text, error, hread, hload, herror⟩ := hrefused
      exact (endsSilently_of_refused hread hload herror).ending_eq
    · exact exit_one_of_failsStrictly hfails

end CompileArguments

/-- What a run of the compile command prints or writes is what it compiled. -/
structure CommandRun.KeepsToCompiled (run : CommandRun)
    (arguments : CompileArguments) (environment : Environment)
    (files : Files) : Prop where
  stopped : arguments.Stops environment files →
    run.files = files ∧ run.stdout = "" ∧ run.ending ≠ .exit 0
  misconfigured : ∀ program, arguments.Loads files program →
    arguments.Misconfigured environment →
    ∃ errors, run.ending = .refusedSettings errors
  compiledOrSilent :
    (∃ settings result,
      arguments.Produces environment files settings result) ∨
    run.files = files ∧ run.stdout = "" ∧ run.ending ≠ .exit 0
  printed : ∀ settings result,
    arguments.Produces environment files settings result →
    arguments.toStdout = true →
    run.ending = .exit 0 ∧ run.stdout = result.code ∧ run.files = files
  written : ∀ settings result,
    arguments.Produces environment files settings result →
    arguments.toStdout = false → run.ending = .exit 0 →
    result.documentation.isSome = settings.documentation ∧
      ∃ text, arguments.directoryValue environment = .text text ∧
        files.Leaves run.files (Location.read text) (settings.outputs result)
  spared : ∀ settings result,
    arguments.Produces environment files settings result →
    arguments.toStdout = false →
    run.stdout = "" ∧ (run.files = files ∨
      ∃ text, arguments.directoryValue environment = .text text ∧
        files.Spares run.files (Location.read text)
          (Entries.keys (settings.outputs result)))
  writable : ∀ settings result text,
    arguments.Produces environment files settings result →
    arguments.toStdout = false →
    arguments.directoryValue environment = .text text →
    (files.writeTo (Location.read text)
      (Files.artifactsIn (Location.read text)
        (settings.outputs result))).2 = none →
    run.ending = .exit 0

namespace CompileArguments

variable {arguments : CompileArguments} {environment : Environment}
  {files : Files}

private theorem run_keepsToCompiled :
    (arguments.run environment files).KeepsToCompiled arguments environment
      files where
  stopped := by
    intro hstops
    rcases endsSilently_or_produces arguments environment files with
      ⟨ending, hending, hsilent⟩ | ⟨settings, result, hproduces⟩
    · exact hsilent.unchanged hending
    · exact absurd hproduces (not_produces_of_stops hstops)
  misconfigured := by
    intro program hloads hmisconfigured
    obtain ⟨text, log, hread, hload⟩ := loads_iff.mp hloads
    obtain ⟨errors, herrors⟩ := exists_settings_eq_error_iff.mpr hmisconfigured
    exact ⟨errors,
      (endsSilently_of_misconfigured hread hload herrors).ending_eq⟩
  compiledOrSilent := by
    rcases endsSilently_or_produces arguments environment files with
      ⟨ending, hending, hsilent⟩ | hproduces
    · exact Or.inr (hsilent.unchanged hending)
    · exact Or.inl hproduces
  printed := fun _ _ hproduces hstdout => run_of_stdout hproduces hstdout
  spared := fun _ _ hproduces hstdout => run_spares hproduces hstdout
  written := by
    intro settings result hproduces hstdout hending
    obtain ⟨text, htext⟩ :=
      exists_directory_of_exit_zero hproduces hstdout hending
    obtain ⟨hfiles, -, hwritten⟩ :=
      run_of_directory hproduces hstdout htext
    refine ⟨documentation_of_produces hproduces, text, htext, ?_⟩
    exact Files.writeTo_leaves (settings.keys_outputs_ne result)
      (settings.nodup_keys_outputs result)
      (Prod.ext hfiles.symm (hwritten.mp hending))
  writable := by
    intro settings result text hproduces hstdout htext hwritten
    exact (run_of_directory hproduces hstdout htext).2.2.mpr hwritten

end CompileArguments

namespace CommandRun

/-- A run of the compile command prints and writes only what it compiled.  It ends
with one whenever its source cannot be used or strict validation fails, unless
nothing is said of the fault. -/
theorem compile_keepsToCompiled_and_exit_one_iff {rest : List String}
    {arguments : CompileArguments}
    (htaken : CompileArguments.read rest = .taken arguments)
    (environment : Environment) (files : Files)
    (hpaired : arguments.SourcePaired files) :
    let run := CommandRun.of ("compile" :: rest) environment files
    run.KeepsToCompiled arguments environment files ∧
      ((arguments.SourceUnusable files ∨
          arguments.FailsStrictly environment files → run.ending = .exit 1) ↔
        ¬arguments.Unreported files) := by
  rw [CompileArguments.run_of_taken htaken]
  exact ⟨CompileArguments.run_keepsToCompiled,
    CompileArguments.exit_one_iff_reported hpaired⟩

/-- A component and an element that uses it. -/
def cardSource : Json :=
  .array [
    .object [("type", .text "Component"), ("name", .text "Card"),
      ("params", .array [.text "title"]),
      ("body", .array [.object [("type", .text "Text"), ("props", .object
        [("value", .object [("type", .text "expression"),
          ("value", .text "title")])])]])],
    .object [("type", .text "Card"),
      ("props", .object [("title", .text "Hi")])]]

def cardProgram : Program where
  definitions := [{
    name := "Card"
    params := [{ name := "title" }]
    body := [.element "Text" [("value", .expression (.of "title"))] []] }]
  body := [.element "Card" [("title", .text "Hi")] []]

private theorem read_of_only_file (text : String) :
    ({ entries := [(["ast.json"], .file text.toUTF8)] } : Files).read
      (Location.read "ast.json") = .ok text :=
  Files.read_eq_ok_iff.mpr ⟨["ast.json"], Files.resolve_of_first
    (Location.read_of_no_slash (by decide) (by decide) (by decide))
    (by decide) (by simp) (by decide)⟩

/-- Beside the source there is room for a directory with two files. -/
private theorem writeTo_beside_source (source : ByteArray)
    (code page : String) :
    (Files.writeTo { entries := [(["ast.json"], .file source)] }
      { names := ["out"] } [⟨{ names := ["out", "App.jsx"] }, code⟩,
        ⟨{ names := ["out", "ComponentDocs.md"] }, page⟩]).2 = none := by
  have hout := Files.resolve_of_text (show Location.text { names := ["out"] } =
    "out" from rfl) (by simp) (by decide)
  have hcode := Files.resolve_of_text
    (show Location.text { names := ["out", "App.jsx"] } = "out/App.jsx"
      from rfl) (by simp) (by decide)
  have hpage := Files.resolve_of_text
    (show Location.text { names := ["out", "ComponentDocs.md"] } =
      "out/ComponentDocs.md" from rfl) (by simp) (by decide)
  simp only [Files.writeTo, Files.ensureDirectories, List.reverse_singleton,
    Files.ensureAll, Files.ensureDirectory, Files.makeDirectory, hout]
  change (Files.writeAll { entries :=
    [(["ast.json"], .file source), (["out"], .directory)] } _).2 = none
  simp only [Files.writeAll, Files.write, hcode, hpage]
  rfl

theorem compile_documented_run :
    let arguments : CompileArguments :=
      { source := "ast.json", outputDirectory := some (.text "out"),
        componentName := some (.text "App"), documentation := true }
    let settings : Settings := { documentation := true, componentName := "App" }
    let files : Files :=
      { entries := [(["ast.json"], .file cardSource.write.toUTF8)] }
    let run := CommandRun.of
      ["compile", "ast.json", "-o", "out", "-n", "App", "--docs"] [] files
    arguments.Loads files cardProgram ∧
      ∃ result page, arguments.Produces [] files settings result ∧
        result.customComponents = ["Card"] ∧
        run.ending = .exit 0 ∧ run.stdout = "" ∧
        files.Leaves run.files (Location.read "out")
          [("App.jsx", result.code), ("ComponentDocs.md", page)] := by
  have hsource : ((Json.read cardSource.write).toOption.bind fun data =>
      (Program.load data).toOption) = some cardProgram := by
    decide +kernel
  intro arguments settings files run
  have htaken : CompileArguments.read
      ["ast.json", "-o", "out", "-n", "App", "--docs"] = .taken arguments := by
    decide
  have hread : files.read arguments.sourceLocation = .ok cardSource.write :=
    read_of_only_file _
  obtain ⟨data, hdata, hload⟩ := Option.bind_eq_some_iff.mp hsource
  rw [Except.toOption_eq_some_iff] at hdata hload
  have hpaired : arguments.SourcePaired files := by
    intro text htext
    obtain rfl := Except.ok.inj (hread.symm.trans htext)
    simp [hdata]
  have hkeeps :=
    (compile_keepsToCompiled_and_exit_one_iff htaken [] files hpaired).1
  have hloads : arguments.Loads files cardProgram :=
    ⟨_, data, hread, hdata, hload⟩
  have hsettings : arguments.Configure [] settings :=
    CompileArguments.settings_eq_ok_iff.mp rfl
  have hcomponents : Entries.keys (Compiler.definitionsByName cardProgram) =
      ["Card"] := by
    decide
  obtain ⟨result, hproduces, hcustom⟩ : ∃ result,
      arguments.Produces [] files settings result ∧
        result.customComponents = ["Card"] :=
    ⟨_, CompileArguments.produces_iff.mpr ⟨cardProgram, hloads, hsettings,
      Compiler.outcome_of_lenient rfl⟩, hcomponents⟩
  obtain ⟨page, hpage⟩ := Option.isSome_iff_exists.mp
    (CompileArguments.documentation_of_produces hproduces)
  refine ⟨hloads, result, page, hproduces, hcustom, ?_⟩
  have houtputs : settings.outputs result =
      [("App.jsx", result.code), ("ComponentDocs.md", page)] := by
    simp [settings, Settings.outputs, Settings.fileName, hpage]
  have hending : run.ending = .exit 0 := by
    refine hkeeps.writable _ _ "out" hproduces rfl rfl ?_
    rw [houtputs]
    exact writeTo_beside_source _ result.code page
  obtain ⟨-, text, htext, hleaves⟩ := hkeeps.written _ _ hproduces rfl hending
  obtain rfl : "out" = text := OptionValue.text.inj htext
  rw [houtputs] at hleaves
  exact ⟨hending, (hkeeps.spared _ _ hproduces rfl).1, hleaves⟩

/-- The array is never closed, and the run does not end with one. -/
theorem compile_unclosed_longInteger :
    let arguments : CompileArguments := { source := "ast.json" }
    let source := String.ofList ('[' :: List.replicate 4301 '1')
    let files : Files := { entries := [(["ast.json"], .file source.toUTF8)] }
    let run := CommandRun.of ["compile", "ast.json"] [] files
    arguments.SourceBroken files ∧
      run.ending = .unreadableProgram (.longInteger 4301) := by
  intro arguments source files run
  have hread : files.read arguments.sourceLocation = .ok source :=
    read_of_only_file source
  have hones : ∀ n, Json.IsDigits (List.replicate (n + 1) '1') ∧
      (List.replicate (n + 1) '1').head? ≠ some '0' := by
    intro n
    simp [Json.IsDigits, List.replicate_succ]
  obtain ⟨hdigits, hhead⟩ := hones 4300
  have hlength : (List.replicate 4301 '1').length = 4301 :=
    List.length_replicate
  have hfault : Json.read source = .error (.longInteger 4301) := by
    rw [← hlength]
    refine Json.read_openArray_digits hdigits hhead ?_
    rw [hlength]
    decide
  have htaken : CompileArguments.read ["ast.json"] = .taken arguments := by
    decide
  refine ⟨?_, ?_⟩
  · exact CompileArguments.sourceBroken_of_text hread
      (Json.not_isText_openArray_digits hdigits)
  · have hrun : run = arguments.run [] files :=
      CompileArguments.run_of_taken htaken
    rw [hrun]
    exact (CompileArguments.endsSilently_of_shape hread
      (Program.loadText_of_longInteger _ hfault)).ending_eq

end CommandRun

end ViewCompiler
