import Stencil.CommandLine.Run
import Mathlib

/-!
# The stages of a run of the command line

Before it renders, a run goes through four stages.  They are described here by what
they need and give, and by the words in which a fault is reported, and not by how a
run gets from one to the next.  The relations speak of bytes, texts and documents;
that the functions of the run follow them is proved for each stage.

Options come from three places, and each of them is chosen by itself.
-/

namespace Stencil.CommandLine

/-! ## Options -/

/-- The flag if it is given, else what the file says, else the standard value. -/
def chosen {α : Type} (flag file : Option α) (standard : α) : α :=
  match flag, file with
  | some given, _ => given
  | none, some given => given
  | none, none => standard

/-- The options under which a run compiles its template.  The name `none` stands
for no default formatter, wherever it is given. -/
def effectiveOptions (flags file : Config) : Options where
  formatters := []
  defaultFormatter :=
    let name := chosen flags.defaultFormatter file.defaultFormatter "str"
    if name = "none" then none else some name
  separator := chosen flags.separator file.separator '|'
  marker := chosen flags.marker file.marker "\x7b\x7d"

theorem chosen_eq_getD {α : Type} (flag file : Option α) (standard : α) :
    (flag.or file).getD standard = chosen flag file standard := by
  cases flag <;> cases file <;> rfl

theorem options_orElse (flags file : Config) :
    (flags.orElse file).options = effectiveOptions flags file := by
  have hformatter : (flags.orElse file).options.defaultFormatter =
      (effectiveOptions flags file).defaultFormatter := by
    simp only [effectiveOptions, ← chosen_eq_getD, Config.options, Config.orElse]
    cases flags.defaultFormatter.or file.defaultFormatter <;> rfl
  unfold effectiveOptions at hformatter ⊢
  simp only [← chosen_eq_getD] at hformatter ⊢
  rw [← hformatter]
  rfl

/-! ## The log -/

/-- What stands on the standard error before anything is reported. -/
def logLines (events : List Event) : ℕ → String
  | 0 => ""
  | 1 => String.join ((events.filter (·.detail = .debug)).map Event.line)
  | _ => String.join (events.map Event.line)

namespace Inputs

variable {inputs : Inputs} {path : String} {parsed : Arguments} {failure : Failure}

theorem logged_eq_logLines (stages : List Stage) :
    inputs.logged parsed stages =
      logLines (stages.flatMap inputs.events) parsed.verbosity := by
  unfold logged
  match parsed.verbosity with
  | 0 => simp [Level.ofVerbosity, Level.shows, logLines]
  | 1 => rfl
  | more + 2 => simp [Level.ofVerbosity, Level.shows, logLines]

/-! ## Texts -/

/-- Bytes, or the cause why there are none, taken as text. -/
inductive TakenAs : Except String ByteArray → Except String String → Prop
  | text {bytes : ByteArray} {text : String} (hbytes : text.toUTF8 = bytes) :
      TakenAs (.ok bytes) (.ok text)
  | missing (cause : String) : TakenAs (.error cause) (.error cause)
  | noText {bytes : ByteArray} (hbytes : ∀ text : String, text.toUTF8 ≠ bytes) :
      TakenAs (.ok bytes) (.error "stream did not contain valid UTF-8")

/-- What a path leads to; for the standard input, what is left of it. -/
def bytesAt (inputs : Inputs) (path : String) : Except String ByteArray :=
  match inputs.read path with
  | .ok (.stored bytes) => .ok bytes
  | .ok .standardInput => .ok inputs.standard
  | .error cause => .error cause

theorem decodeText_toUTF8 (text : String) : decodeText text.toUTF8 = .ok text := by
  have hdecoded : String.fromUTF8? text.toUTF8 = some text := by
    unfold String.fromUTF8?
    rw [String.toUTF8_eq_toByteArray, dif_pos text.isValidUTF8]
    rfl
  simp only [decodeText, hdecoded]

theorem toUTF8_of_decodeText {bytes : ByteArray} {text : String}
    (hdecoded : decodeText bytes = .ok text) : text.toUTF8 = bytes := by
  unfold decodeText String.fromUTF8? at hdecoded
  split at hdecoded
  next found hfound =>
    obtain rfl := Except.ok.inj hdecoded
    split at hfound
    next =>
      obtain rfl := Option.some.inj hfound
      rfl
    next => contradiction
  next => contradiction

theorem decodeText_of_noText {bytes : ByteArray}
    (hbytes : ∀ text : String, text.toUTF8 ≠ bytes) :
    decodeText bytes = .error "stream did not contain valid UTF-8" := by
  cases hdecoded : decodeText bytes with
  | ok text => exact absurd (toUTF8_of_decodeText hdecoded) (hbytes text)
  | error cause =>
      unfold decodeText at hdecoded
      split at hdecoded
      next => contradiction
      next => exact hdecoded.symm

theorem takenAs_iff_decodeText_eq {bytes : ByteArray}
    {result : Except String String} :
    TakenAs (.ok bytes) result ↔ decodeText bytes = result := by
  constructor
  · rintro (rfl | _ | hbytes)
    · exact decodeText_toUTF8 _
    · exact decodeText_of_noText hbytes
  · rintro rfl
    by_cases htext : ∃ text : String, text.toUTF8 = bytes
    · obtain ⟨text, rfl⟩ := htext
      rw [decodeText_toUTF8]
      exact .text rfl
    · rw [decodeText_of_noText (not_exists.mp htext)]
      exact .noText (not_exists.mp htext)

theorem takenAs_iff_readText_eq {result : Except String String} :
    TakenAs (inputs.bytesAt path) result ↔ inputs.readText path = result := by
  unfold bytesAt readText
  cases inputs.read path with
  | ok file => cases file <;> exact takenAs_iff_decodeText_eq
  | error cause =>
      constructor
      · rintro ⟨⟩
        rfl
      · rintro rfl
        exact .missing cause

/-! ## The option file -/

/-- The file, if one is named, holds the configuration. -/
inductive Configured (inputs : Inputs) : Option String → Config → Prop
  | unnamed : inputs.Configured none .empty
  | named {file text : String} {config : Config}
      (hread : TakenAs (inputs.bytesAt file) (.ok text))
      (hconfig : Config.parse? text = some config) :
      inputs.Configured (some file) config

/-- What is reported when the file holds no configuration. -/
inductive ConfigFault (inputs : Inputs) : Option String → String → Prop
  | unreadable {file cause report : String}
      (hread : TakenAs (inputs.bytesAt file) (.error cause))
      (hreport : report = "Error loading config '" ++ file ++ "': " ++
        "Failed to read config file: " ++ cause ++ "\n") :
      inputs.ConfigFault (some file) report
  | malformed {file text report : String}
      (hread : TakenAs (inputs.bytesAt file) (.ok text))
      (hconfig : Config.parse? text = none)
      (hreport : report = "Error loading config '" ++ file ++ "': " ++
        "Failed to parse config TOML: " ++ inputs.complaints.config text ++ "\n") :
      inputs.ConfigFault (some file) report

theorem loadConfig_eq_ok_iff {file : Option String} {config : Config} :
    inputs.loadConfig file = .ok config ↔ inputs.Configured file config := by
  constructor
  · intro hload
    unfold loadConfig at hload
    split at hload
    next =>
      obtain rfl := Except.ok.inj hload
      exact .unnamed
    next =>
      split at hload
      next => contradiction
      next text hread =>
        split at hload
        next => contradiction
        next config hconfig =>
          obtain rfl := Except.ok.inj hload
          exact .named (takenAs_iff_readText_eq.mpr hread) hconfig
  · rintro (_ | ⟨hread, hconfig⟩)
    · rfl
    · simp only [loadConfig, takenAs_iff_readText_eq.mp hread, hconfig]

theorem report_config_unreadable (file cause : String) :
    (Failure.config file (.unreadable cause)).report =
      "Error loading config '" ++ file ++ "': " ++
        "Failed to read config file: " ++ cause ++ "\n" := by
  unfold Failure.report ConfigError.message
  simp only [String.append_assoc]

theorem report_config_malformed (file cause : String) :
    (Failure.config file (.malformed cause)).report =
      "Error loading config '" ++ file ++ "': " ++
        "Failed to parse config TOML: " ++ cause ++ "\n" := by
  unfold Failure.report ConfigError.message
  simp only [String.append_assoc]

theorem loadConfig_eq_error_iff {file : Option String} :
    inputs.loadConfig file = .error failure ↔
      ∃ path, file = some path ∧
        ((∃ cause, TakenAs (inputs.bytesAt path) (.error cause) ∧
            failure = .config path (.unreadable cause)) ∨
          ∃ text, TakenAs (inputs.bytesAt path) (.ok text) ∧
            Config.parse? text = none ∧
            failure = .config path (.malformed (inputs.complaints.config text))) := by
  simp only [takenAs_iff_readText_eq]
  cases file with
  | none => simp [loadConfig]
  | some path =>
      simp only [loadConfig, Option.some.injEq, exists_eq_left']
      cases inputs.readText path with
      | error cause => simp [eq_comm]
      | ok text => cases hconfig : Config.parse? text <;> simp [hconfig, eq_comm]

theorem configFault_iff {file : Option String} {report : String} :
    inputs.ConfigFault file report ↔
      ∃ failure, inputs.loadConfig file = .error failure ∧
        report = failure.report := by
  simp only [loadConfig_eq_error_iff]
  constructor
  · rintro (⟨hread, rfl⟩ | ⟨hread, hconfig, rfl⟩)
    · exact ⟨_, ⟨_, rfl, .inl ⟨_, hread, rfl⟩⟩, (report_config_unreadable _ _).symm⟩
    · exact ⟨_, ⟨_, rfl, .inr ⟨_, hread, hconfig, rfl⟩⟩,
        (report_config_malformed _ _).symm⟩
  · rintro ⟨failure, ⟨path, rfl, ⟨cause, hread, rfl⟩ | ⟨text, hread, hconfig, rfl⟩⟩, rfl⟩
    · exact .unreadable hread (report_config_unreadable _ _)
    · exact .malformed hread hconfig (report_config_malformed _ _)

/-! ## The data -/

def dataBytes (inputs : Inputs) : Option String → Except String ByteArray
  | none => .ok inputs.standard
  | some file => inputs.bytesAt file

/-- Data is TOML in a file with that extension, and JSON everywhere else. -/
def dataFormat (file : Option String) : Format :=
  if file.bind extension? = some "toml" then .toml else .json

def dataOf? (format : Format) (text : String) : Option Value :=
  match format with
  | .json => (Json.parse? text).map Json.toValue
  | .toml => (Toml.parse? text).bind Toml.toValue?

def Loaded (inputs : Inputs) (file : Option String) (data : Data) : Prop :=
  ∃ text, TakenAs (inputs.dataBytes file) (.ok text) ∧
    dataOf? (dataFormat file) text = some data.value

def dataLabel : Option String → String
  | none => "Error loading data from stdin: "
  | some file => "Error loading data '" ++ file ++ "': "

def malformedLabel : Format → String
  | .json => "Failed to parse JSON data: "
  | .toml => "Failed to parse TOML data: "

/-- What is reported when there is no data to be had. -/
inductive DataFault (inputs : Inputs) (file : Option String) : String → Prop
  | unreadable {cause report : String}
      (hread : TakenAs (inputs.dataBytes file) (.error cause))
      (hreport : report =
        dataLabel file ++ "Failed to read data: " ++ cause ++ "\n") :
      inputs.DataFault file report
  | malformed {text report : String}
      (hread : TakenAs (inputs.dataBytes file) (.ok text))
      (hdata : dataOf? (dataFormat file) text = none)
      (hreport : report = dataLabel file ++ malformedLabel (dataFormat file) ++
        inputs.complaints.data (dataFormat file) text ++ "\n") :
      inputs.DataFault file report

theorem parseData?_map_value (format : Format) (text : String) :
    (parseData? format text).map Data.value = dataOf? format text := by
  cases format with
  | json =>
      rw [parseData?, dataOf?, Option.map_map]
      rfl
  | toml =>
      cases hparse : Toml.parse? text with
      | none => simp only [parseData?, dataOf?, hparse, Option.bind_none, Option.map_none]
      | some document =>
          simp only [parseData?, dataOf?, hparse, Option.bind_some, Toml.toData?,
            Option.map_pmap, Option.pmap_eq_map, Option.map_id']

theorem parseData?_eq_some_iff {format : Format} {text : String} {data : Data} :
    parseData? format text = some data ↔ dataOf? format text = some data.value := by
  rw [← parseData?_map_value]
  cases parseData? format text with
  | none => simp
  | some found => cases found; cases data; simp

theorem parseData?_eq_none_iff {format : Format} {text : String} :
    parseData? format text = none ↔ dataOf? format text = none := by
  rw [← parseData?_map_value, Option.map_eq_none_iff]

def dataText (inputs : Inputs) : Option String → Except String String
  | none => decodeText inputs.standard
  | some file => inputs.readText file

theorem takenAs_iff_dataText_eq {file : Option String} {result : Except String String} :
    TakenAs (inputs.dataBytes file) result ↔ inputs.dataText file = result := by
  cases file with
  | none => exact takenAs_iff_decodeText_eq
  | some file => exact takenAs_iff_readText_eq

theorem loadData_eq (inputs : Inputs) (file : Option String) :
    inputs.loadData file =
      match inputs.dataText file with
      | .error cause => .error (.data file (.unreadable cause))
      | .ok text =>
        match parseData? (dataFormat file) text with
        | none => .error (.data file (.malformed (dataFormat file)
            (inputs.complaints.data (dataFormat file) text)))
        | some data => .ok data := by
  cases file <;> rfl

theorem loadData_eq_ok_iff {file : Option String} {data : Data} :
    inputs.loadData file = .ok data ↔ inputs.Loaded file data := by
  simp only [loadData_eq, Loaded, takenAs_iff_dataText_eq, ← parseData?_eq_some_iff]
  cases inputs.dataText file with
  | error cause => simp
  | ok text => cases hdata : parseData? (dataFormat file) text <;> simp [hdata]

theorem loadData_eq_error_iff {file : Option String} :
    inputs.loadData file = .error failure ↔
      (∃ cause, TakenAs (inputs.dataBytes file) (.error cause) ∧
        failure = .data file (.unreadable cause)) ∨
      ∃ text, TakenAs (inputs.dataBytes file) (.ok text) ∧
        dataOf? (dataFormat file) text = none ∧
        failure = .data file (.malformed (dataFormat file)
          (inputs.complaints.data (dataFormat file) text)) := by
  simp only [loadData_eq, takenAs_iff_dataText_eq, ← parseData?_eq_none_iff]
  cases inputs.dataText file with
  | error cause => simp [eq_comm]
  | ok text =>
      cases hdata : parseData? (dataFormat file) text <;> simp [hdata, eq_comm]

theorem report_data_unreadable (file : Option String) (cause : String) :
    (Failure.data file (.unreadable cause)).report =
      dataLabel file ++ "Failed to read data: " ++ cause ++ "\n" := by
  unfold Failure.report DataError.message dataLabel
  cases file <;> simp only [String.append_assoc]

theorem report_data_malformed (file : Option String) (format : Format) (cause : String) :
    (Failure.data file (.malformed format cause)).report =
      dataLabel file ++ malformedLabel format ++ cause ++ "\n" := by
  unfold Failure.report DataError.message dataLabel malformedLabel
  cases file <;> cases format <;> simp only [String.append_assoc]

theorem dataFault_iff {file : Option String} {report : String} :
    inputs.DataFault file report ↔
      ∃ failure, inputs.loadData file = .error failure ∧
        report = failure.report := by
  simp only [loadData_eq_error_iff]
  constructor
  · rintro (⟨hread, rfl⟩ | ⟨hread, hdata, rfl⟩)
    · exact ⟨_, .inl ⟨_, hread, rfl⟩, (report_data_unreadable _ _).symm⟩
    · exact ⟨_, .inr ⟨_, hread, hdata, rfl⟩, (report_data_malformed _ _ _).symm⟩
  · rintro ⟨failure, ⟨cause, hread, rfl⟩ | ⟨text, hread, hdata, rfl⟩, rfl⟩
    · exact .unreadable hread (report_data_unreadable _ _)
    · exact .malformed hread hdata (report_data_malformed _ _ _)

/-! ## The stages before the render -/

open Classical in
/-- What is left behind stages that have read the paths.  The standard input is
read only once. -/
noncomputable def behind (inputs : Inputs) (paths : List String) : Inputs :=
  { inputs with
    standard :=
      if ∃ path ∈ paths, inputs.read path = .ok .standardInput then .empty
      else inputs.standard }

/-- The template compiles under the options of the flags and of the file. -/
inductive Compiled (inputs : Inputs) (path : String) (parsed : Arguments) :
    Template → Prop
  | intro {config : Config} {source : String} {template : Template}
      (hconfig : inputs.Configured parsed.config config)
      (hread : TakenAs ((inputs.behind parsed.config.toList).bytesAt path) (.ok source))
      (hcompile :
        Template.ofSource (effectiveOptions parsed.given config) source = .ok template) :
      inputs.Compiled path parsed template

structure Prepared (inputs : Inputs) (path : String) (parsed : Arguments)
    (template : Template) (data : Data) : Prop where
  compiled : inputs.Compiled path parsed template
  loaded : (inputs.behind (parsed.config.toList ++ [path])).Loaded parsed.data data

/-- The first line of the report of a compile error; the word in front is red if
the error has a place in the template. -/
def headline (error : CompileError) : String :=
  (if error.span? = none then "Error:" else "\x1b[31mError:\x1b[0m") ++ " " ++
    error.kind ++ ": " ++ error.message ++ "\n"

/-- What is logged and reported when a stage fails and all those before it succeed.
A compile error is reported as the library does, below its headline. -/
inductive Fault (inputs : Inputs) (path : String) (parsed : Arguments) :
    List Event → String → Prop
  | config {report : String} (hfault : inputs.ConfigFault parsed.config report) :
      inputs.Fault path parsed [] report
  | template {config : Config} {cause report : String}
      (hconfig : inputs.Configured parsed.config config)
      (hread : TakenAs ((inputs.behind parsed.config.toList).bytesAt path) (.error cause))
      (hreport : report =
        "Error reading file '" ++ path ++ "': " ++ cause ++ "\n") :
      inputs.Fault path parsed (inputs.events .options) report
  | compile {config : Config} {source picture report : String}
      {error : CompileError} (hconfig : inputs.Configured parsed.config config)
      (hread : TakenAs ((inputs.behind parsed.config.toList).bytesAt path) (.ok source))
      (hcompile :
        Template.ofSource (effectiveOptions parsed.given config) source = .error error)
      (hlibrary : error.report source path = headline error ++ picture)
      (hreport : report = headline error ++ picture) :
      inputs.Fault path parsed (inputs.events .options ++ inputs.events .compilation)
        report
  | data {template : Template} {report : String}
      (hcompiled : inputs.Compiled path parsed template)
      (hfault : (inputs.behind (parsed.config.toList ++ [path])).DataFault parsed.data report) :
      inputs.Fault path parsed (inputs.events .options ++ inputs.events .compilation)
        report

theorem exists_report_eq_headline (error : CompileError) (source filename : String) :
    ∃ picture, error.report source filename = headline error ++ picture := by
  have hred : Report.paint Report.red "Error:" = "\x1b[31mError:\x1b[0m" := by
    decide
  unfold CompileError.report headline CompileError.describe
  split
  next hnone =>
    refine ⟨"", ?_⟩
    rw [if_pos hnone]
    simp only [String.append_assoc, String.append_empty]
    rfl
  next span hspan =>
    rw [hred, if_neg (by simp [hspan])]
    simp only [String.append_assoc]
    exact ⟨_, rfl⟩

theorem loadTemplate_eq_ok_iff {options : Options} {template : Template} :
    inputs.loadTemplate options path = .ok template ↔
      ∃ source, TakenAs (inputs.bytesAt path) (.ok source) ∧
        Template.ofSource options source = .ok template := by
  simp only [takenAs_iff_readText_eq]
  unfold loadTemplate
  cases inputs.readText path with
  | error cause => simp
  | ok source =>
      cases hcompile : Template.ofSource options source <;> simp [hcompile]

theorem loadTemplate_eq_error_iff {options : Options} :
    inputs.loadTemplate options path = .error failure ↔
      (∃ cause, TakenAs (inputs.bytesAt path) (.error cause) ∧
        failure = .template path cause) ∨
      ∃ source error, TakenAs (inputs.bytesAt path) (.ok source) ∧
        Template.ofSource options source = .error error ∧
        failure = .compile path source error := by
  simp only [takenAs_iff_readText_eq]
  unfold loadTemplate
  cases inputs.readText path with
  | error cause => simp [eq_comm]
  | ok source =>
      cases hcompile : Template.ofSource options source <;> simp [hcompile, eq_comm]

theorem readsStandardInput_iff :
    inputs.readsStandardInput path = true ↔ inputs.read path = .ok .standardInput := by
  unfold readsStandardInput
  split <;> simp_all

theorem afterReading_eq_behind (inputs : Inputs) (paths : List String) :
    inputs.afterReading paths = inputs.behind paths := by
  have hany : paths.any inputs.readsStandardInput = true ↔
      ∃ path ∈ paths, inputs.read path = .ok .standardInput := by
    simp only [List.any_eq_true, readsStandardInput_iff]
  unfold afterReading behind
  split
  next hread => rw [if_pos (hany.mp hread)]
  next hread => rw [if_neg (mt hany.mpr hread)]

theorem behind_behind (inputs : Inputs) (first second : List String) :
    (inputs.behind first).behind second = inputs.behind (first ++ second) := by
  simp only [← afterReading_eq_behind, afterReading, List.any_append]
  cases first.any inputs.readsStandardInput <;> simp

/-- Where no stage has read the standard input, all of it is left. -/
theorem behind_of_forall_ne {paths : List String}
    (hpaths : ∀ path ∈ paths, inputs.read path ≠ .ok .standardInput) :
    inputs.behind paths = inputs := by
  have hnone : ¬ ∃ path ∈ paths, inputs.read path = .ok .standardInput := by
    rintro ⟨path, hpath, hread⟩
    exact hpaths path hpath hread
  unfold behind
  rw [if_neg hnone]

theorem behind_nil (inputs : Inputs) : inputs.behind [] = inputs :=
  behind_of_forall_ne fun _ hpath => absurd hpath List.not_mem_nil

theorem prepare_eq (inputs : Inputs) (path : String) (parsed : Arguments) :
    inputs.prepare path parsed =
      match inputs.loadConfig parsed.config with
      | .error failure => .error failure
      | .ok config =>
        match (inputs.behind parsed.config.toList).loadTemplate
            (effectiveOptions parsed.given config) path with
        | .error failure => .error failure
        | .ok template =>
          match (inputs.behind (parsed.config.toList ++ [path])).loadData parsed.data with
          | .error failure => .error failure
          | .ok data => .ok (template, data) := by
  simp only [prepare, afterReading_eq_behind, behind_behind]
  cases inputs.loadConfig parsed.config with
  | error failure => rfl
  | ok config =>
      simp only [bind, Except.bind, options_orElse]
      cases (inputs.behind parsed.config.toList).loadTemplate
          (effectiveOptions parsed.given config) path with
      | error failure => rfl
      | ok template =>
          cases (inputs.behind (parsed.config.toList ++ [path])).loadData parsed.data <;>
            rfl

theorem prepare_eq_ok_iff {template : Template} {data : Data} :
    inputs.prepare path parsed = .ok (template, data) ↔
      inputs.Prepared path parsed template data := by
  rw [prepare_eq]
  constructor
  · intro hprepare
    split at hprepare
    next => contradiction
    next config hconfig =>
      split at hprepare
      next => contradiction
      next template htemplate =>
        split at hprepare
        next => contradiction
        next data hdata =>
          obtain ⟨rfl, rfl⟩ := Prod.mk.inj (Except.ok.inj hprepare)
          obtain ⟨source, hread, hcompile⟩ := loadTemplate_eq_ok_iff.mp htemplate
          exact ⟨⟨loadConfig_eq_ok_iff.mp hconfig, hread, hcompile⟩,
            loadData_eq_ok_iff.mp hdata⟩
  · rintro ⟨⟨hconfig, hread, hcompile⟩, hloaded⟩
    simp only [loadConfig_eq_ok_iff.mpr hconfig,
      loadTemplate_eq_ok_iff.mpr ⟨_, hread, hcompile⟩, loadData_eq_ok_iff.mpr hloaded]

theorem prepare_eq_error_iff :
    inputs.prepare path parsed = .error failure ↔
      inputs.loadConfig parsed.config = .error failure ∨
      ∃ config, inputs.loadConfig parsed.config = .ok config ∧
        ((inputs.behind parsed.config.toList).loadTemplate
            (effectiveOptions parsed.given config) path = .error failure ∨
          ∃ template, (inputs.behind parsed.config.toList).loadTemplate
              (effectiveOptions parsed.given config) path = .ok template ∧
            (inputs.behind (parsed.config.toList ++ [path])).loadData parsed.data =
              .error failure) := by
  rw [prepare_eq]
  cases inputs.loadConfig parsed.config with
  | error first => simp
  | ok config =>
      simp only [reduceCtorEq, false_or, Except.ok.injEq, exists_eq_left']
      cases (inputs.behind parsed.config.toList).loadTemplate
          (effectiveOptions parsed.given config) path with
      | error first => simp
      | ok template =>
          cases (inputs.behind (parsed.config.toList ++ [path])).loadData parsed.data <;>
            simp

theorem stages_of_loadConfig {file : Option String}
    (hload : inputs.loadConfig file = .error failure) : failure.stages = [] := by
  obtain ⟨path, -, ⟨cause, -, rfl⟩ | ⟨text, -, -, rfl⟩⟩ :=
    loadConfig_eq_error_iff.mp hload
  · rfl
  · rfl

theorem stages_of_loadData {file : Option String}
    (hload : inputs.loadData file = .error failure) :
    failure.stages = [.options, .compilation] := by
  obtain ⟨cause, -, rfl⟩ | ⟨text, -, -, rfl⟩ := loadData_eq_error_iff.mp hload
  · rfl
  · rfl

/-- What has been logged when the run comes to a failure. -/
def eventsBefore (inputs : Inputs) (failure : Failure) : List Event :=
  failure.stages.flatMap inputs.events

theorem eventsBefore_config {file : Option String}
    (hload : inputs.loadConfig file = .error failure) :
    inputs.eventsBefore failure = [] := by
  rw [eventsBefore, stages_of_loadConfig hload, List.flatMap_nil]

theorem eventsBefore_template (cause : String) :
    inputs.eventsBefore (.template path cause) = inputs.events .options :=
  List.flatMap_singleton ..

theorem eventsBefore_of_stages_eq (hstages : failure.stages = [.options, .compilation]) :
    inputs.eventsBefore failure =
      inputs.events .options ++ inputs.events .compilation := by
  rw [eventsBefore, hstages, List.flatMap_cons, List.flatMap_singleton]

theorem fault_iff {events : List Event} {report : String} :
    inputs.Fault path parsed events report ↔
      ∃ failure, inputs.prepare path parsed = .error failure ∧
        events = inputs.eventsBefore failure ∧ report = failure.report := by
  simp only [prepare_eq_error_iff]
  constructor
  · intro hfault
    cases hfault with
    | config hfault =>
        obtain ⟨failure, hload, rfl⟩ := configFault_iff.mp hfault
        exact ⟨failure, .inl hload, (eventsBefore_config hload).symm, rfl⟩
    | template hconfig hread hreport =>
        refine ⟨_, .inr ⟨_, loadConfig_eq_ok_iff.mpr hconfig, .inl ?_⟩,
          (eventsBefore_template _).symm, hreport⟩
        exact loadTemplate_eq_error_iff.mpr (.inl ⟨_, hread, rfl⟩)
    | compile hconfig hread hcompile hlibrary hreport =>
        refine ⟨.compile path _ _, .inr ⟨_, loadConfig_eq_ok_iff.mpr hconfig, .inl ?_⟩,
          (eventsBefore_of_stages_eq rfl).symm, hreport.trans hlibrary.symm⟩
        exact loadTemplate_eq_error_iff.mpr (.inr ⟨_, _, hread, hcompile, rfl⟩)
    | data hcompiled hfault =>
        obtain ⟨failure, hload, rfl⟩ := dataFault_iff.mp hfault
        obtain ⟨hconfig, hread, hcompile⟩ := hcompiled
        have htemplate := loadTemplate_eq_ok_iff.mpr ⟨_, hread, hcompile⟩
        exact ⟨failure,
          .inr ⟨_, loadConfig_eq_ok_iff.mpr hconfig, .inr ⟨_, htemplate, hload⟩⟩,
          (eventsBefore_of_stages_eq (stages_of_loadData hload)).symm, rfl⟩
  · rintro ⟨failure, hload | ⟨config, hconfig, hload | ⟨template, htemplate, hload⟩⟩,
      rfl, rfl⟩
    · rw [eventsBefore_config hload]
      exact .config (configFault_iff.mpr ⟨_, hload, rfl⟩)
    · have hconfigured := loadConfig_eq_ok_iff.mp hconfig
      rcases loadTemplate_eq_error_iff.mp hload with
        ⟨cause, hread, rfl⟩ | ⟨source, error, hread, hcompile, rfl⟩
      · rw [eventsBefore_template]
        exact .template hconfigured hread rfl
      · obtain ⟨picture, hlibrary⟩ := exists_report_eq_headline error source path
        rw [eventsBefore_of_stages_eq rfl]
        exact .compile hconfigured hread hcompile hlibrary hlibrary
    · obtain ⟨source, hread, hcompile⟩ := loadTemplate_eq_ok_iff.mp htemplate
      rw [eventsBefore_of_stages_eq (stages_of_loadData hload)]
      exact .data ⟨loadConfig_eq_ok_iff.mp hconfig, hread, hcompile⟩
        (dataFault_iff.mpr ⟨_, hload, rfl⟩)

end Inputs

end Stencil.CommandLine
