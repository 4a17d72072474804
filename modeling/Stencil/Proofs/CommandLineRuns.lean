import Stencil.Proofs.BufferedOutput
import Stencil.Proofs.CommandLineStages
import Mathlib

/-!
# What a run of the command line comes to

The first stage that fails decides the result of a run, and a run with no fault in
front of the render ends as the render does.  What the render delivers goes through
a buffer, and is there at the end also when the render has failed.
-/

namespace Stencil.CommandLine

namespace Inputs

variable {inputs : Inputs} {path : String} {parsed : Arguments} {output : StandardOutput}

/-! ## Runs -/

/-- The chunks that a render delivers, joined; if it fails, those before that. -/
def delivered (template : Template) (data : Value) : String :=
  String.join (template.render Sink.chunks data #[]).output.toList

theorem delivered_eq_join (template : Template) (data : Value) :
    delivered template data =
      String.join (template.program.rendering data).chunks := by
  rw [delivered, (template.render_chunks data).1]

theorem expand_eq_rendering (template : Template) (data : Value) :
    template.expand data =
      match (template.program.rendering data).undefinedName with
      | none => .ok (delivered template data)
      | some name => .error (.undefinedVariable name) := by
  obtain ⟨houtput, hfailure⟩ := template.render_string data ""
  rw [String.empty_append, ← delivered_eq_join] at houtput
  simp only [Template.expand, houtput, hfailure, Rendering.failure]
  cases (template.program.rendering data).undefinedName <;> rfl

theorem write_of_room_eq_none (hroom : output.room = none) (template : Template)
    (data : Data) :
    write output template data = ((delivered template data.value).toUTF8,
      (template.program.rendering data.value).undefinedName.map fun name =>
        .render (.undefinedVariable name)) := by
  obtain ⟨hflush, hfailure⟩ :=
    template.render_buffered data.value output.refusal bufferCapacity
  rw [← hroom] at hflush hfailure
  simp only [write, hflush, hfailure, Rendering.failure, delivered_eq_join]
  cases (template.program.rendering data.value).undefinedName <;> rfl

/-- Whatever the standard output takes, without a failure it has taken all. -/
theorem write_eq_none {template : Template} {data : Data} {written : ByteArray}
    (hwrite : write output template data = (written, none)) :
    template.expand data.value = .ok (delivered template data.value) ∧
      written = (delivered template data.value).toUTF8 := by
  let outcome := template.render (.buffered output.refusal bufferCapacity) data.value
    (.empty output.room)
  cases hflush : outcome.output.flush output.refusal with
  | mk flushed refused =>
      cases hfailure : outcome.failure with
      | some error => simp [write, outcome, hflush, hfailure] at hwrite
      | none =>
          simp only [write, outcome, hflush, hfailure] at hwrite
          obtain ⟨rfl, hrefused⟩ := Prod.mk.inj hwrite
          obtain rfl := Option.map_eq_none_iff.mp hrefused
          obtain ⟨hdefined, hwritten⟩ :=
            template.written_of_render_buffered data.value rfl hfailure hflush
          rw [expand_eq_rendering, hdefined, hwritten, delivered_eq_join]
          exact ⟨rfl, rfl⟩

theorem report_undefinedVariable (name : String) :
    (Failure.render (.undefinedVariable name)).report =
      "Error: UndefinedVariable: " ++ name ++ " is not defined\n" := by
  have hfront : "Error: UndefinedVariable: " =
      "Error: " ++ ("UndefinedVariable" ++ ": ") := by
    decide
  have hback : " is not defined\n" = " is not defined" ++ "\n" := by
    decide
  rw [hfront, hback]
  unfold Failure.report RenderError.describe RenderError.kind RenderError.message
  simp only [String.append_assoc]

def allEvents (inputs : Inputs) : List Event :=
  inputs.events .options ++ inputs.events .compilation ++ inputs.events .render

theorem flatMap_events_eq_allEvents (inputs : Inputs) :
    [.options, .compilation, .render].flatMap inputs.events = inputs.allEvents := by
  rw [allEvents, List.append_assoc, List.flatMap_cons, List.flatMap_cons,
    List.flatMap_singleton]

theorem expand_of_prepared (hroom : output.room = none) {template : Template}
    {data : Data} (hprepared : inputs.Prepared path parsed template data) :
    let log := logLines inputs.allEvents parsed.verbosity
    (∀ text, template.expand data.value = .ok text →
      inputs.expand output path parsed = ⟨0, text.toUTF8, log⟩) ∧
    ∀ error, template.expand data.value = .error error →
      ∃ name, error = .undefinedVariable name ∧
        inputs.expand output path parsed =
          ⟨1, (delivered template data.value).toUTF8, log ++
            ("Error: UndefinedVariable: " ++ name ++ " is not defined\n")⟩ := by
  intro log
  simp only [expand, prepare_eq_ok_iff.mpr hprepared, write_of_room_eq_none hroom,
    expand_eq_rendering, logged_eq_logLines]
  cases (template.program.rendering data.value).undefinedName with
  | none =>
      constructor
      · intro text htext
        obtain rfl := Except.ok.inj htext
        rw [Option.map_none, flatMap_events_eq_allEvents]
      · intro error herror
        contradiction
  | some name =>
      constructor
      · intro text htext
        contradiction
      · intro error herror
        refine ⟨name, (Except.error.inj herror).symm, ?_⟩
        rw [← report_undefinedVariable]
        simp only [log, ← flatMap_events_eq_allEvents]
        rfl

theorem expand_of_fault {events : List Event} {report : String}
    (hfault : inputs.Fault path parsed events report) :
    inputs.expand output path parsed =
      ⟨1, .empty, logLines events parsed.verbosity ++ report⟩ := by
  obtain ⟨failure, hprepare, rfl, rfl⟩ := fault_iff.mp hfault
  simp only [expand, hprepare, logged_eq_logLines, eventsBefore]

theorem exists_fault_or_prepared (inputs : Inputs) (path : String)
    (parsed : Arguments) :
    (∃ events report, inputs.Fault path parsed events report) ∨
      ∃ template data, inputs.Prepared path parsed template data := by
  cases hprepare : inputs.prepare path parsed with
  | error failure => exact .inl ⟨_, _, fault_iff.mpr ⟨failure, hprepare, rfl, rfl⟩⟩
  | ok ready => exact .inr ⟨ready.1, ready.2, prepare_eq_ok_iff.mp hprepare⟩

theorem expand_code_eq_zero_iff (hroom : output.room = none) :
    (inputs.expand output path parsed).code = 0 ↔
      ∃ template data text, inputs.Prepared path parsed template data ∧
        template.expand data.value = .ok text := by
  have hfailed : (1 : UInt8) ≠ 0 := by decide
  constructor
  · intro hcode
    rcases exists_fault_or_prepared inputs path parsed with
      ⟨events, report, hfault⟩ | ⟨template, data, hprepared⟩
    · rw [expand_of_fault hfault] at hcode
      exact absurd hcode hfailed
    · cases hexpand : template.expand data.value with
      | ok text => exact ⟨template, data, text, hprepared, hexpand⟩
      | error error =>
          obtain ⟨name, -, hresult⟩ :=
            (expand_of_prepared hroom hprepared).2 error hexpand
          rw [hresult] at hcode
          exact absurd hcode hfailed
  · rintro ⟨template, data, text, hprepared, hexpand⟩
    rw [(expand_of_prepared hroom hprepared).1 text hexpand]

/-- Whatever the standard output takes, a run that ends with code 0 has written
the whole text. -/
theorem expand_output_of_code_eq_zero
    (hcode : (inputs.expand output path parsed).code = 0) :
    ∃ template data text, inputs.Prepared path parsed template data ∧
      template.expand data.value = .ok text ∧
      (inputs.expand output path parsed).output = text.toUTF8 := by
  have hfailed : (1 : UInt8) ≠ 0 := by decide
  rcases exists_fault_or_prepared inputs path parsed with
    ⟨events, report, hfault⟩ | ⟨template, data, hprepared⟩
  · rw [expand_of_fault hfault] at hcode
    exact absurd hcode hfailed
  · cases hwrite : write output template data with
    | mk written failure =>
        simp only [expand, prepare_eq_ok_iff.mpr hprepared, hwrite] at hcode ⊢
        cases failure with
        | some failure => exact absurd hcode hfailed
        | none =>
            obtain ⟨hexpand, hwritten⟩ := write_eq_none hwrite
            exact ⟨template, data, _, hprepared, hexpand, hwritten⟩

/-- A run whose arguments name a template fails at the first of its stages that
does, with nothing written, or renders the template that the library compiles
under the effective options.  If the standard output takes everything, what the
render delivers is written, and the code says whether the render has failed.
The standard error holds the lines that have been logged, and the report. -/
theorem run_result {arguments : List String}
    (hparsed : Request.parse? arguments = some (.expand path parsed))
    (hroom : output.room = none) :
    let result := inputs.run output arguments
    let log := fun events => logLines events parsed.verbosity
    (∀ events report, inputs.Fault path parsed events report →
      result = ⟨1, .empty, log events ++ report⟩) ∧
    (∀ template data, inputs.Prepared path parsed template data →
      (∀ text, template.expand data.value = .ok text →
        result = ⟨0, text.toUTF8, log inputs.allEvents⟩) ∧
      ∀ error, template.expand data.value = .error error →
        ∃ name, error = .undefinedVariable name ∧
          result = ⟨1, (delivered template data.value).toUTF8, log inputs.allEvents ++
            ("Error: UndefinedVariable: " ++ name ++ " is not defined\n")⟩) ∧
    ((∃ events report, inputs.Fault path parsed events report) ∨
      ∃ template data, inputs.Prepared path parsed template data) ∧
    (result.code = 0 ↔
      ∃ template data text, inputs.Prepared path parsed template data ∧
        template.expand data.value = .ok text) := by
  intro result log
  have hresult : result = inputs.expand output path parsed := by
    simp only [result, run, hparsed]
  rw [hresult]
  exact ⟨fun events report hfault => expand_of_fault hfault,
    fun template data hprepared => expand_of_prepared hroom hprepared,
    exists_fault_or_prepared inputs path parsed, expand_code_eq_zero_iff hroom⟩

/-! ## Runs on a desk -/

/-- A page and a letter in brackets, options that ask for another marker and for
escaped markup, data in a table, and a mapping on the standard input. -/
def desk : Inputs where
  read path :=
    if path = "page" then .ok (.stored "[name]".toUTF8)
    else if path = "letter" then .ok (.stored "Hi [name], [who]".toUTF8)
    else if path = "options" then
      .ok (.stored "meta = \"<>\"\ndefault_formatter = \"html\"".toUTF8)
    else if path = "names.toml" then .ok (.stored "name = \"Ada\"".toUTF8)
    else if path = "input" then .ok .standardInput
    else .error "No such file or directory (os error 2)"
  standard := "\x7b\"name\": \"<\"\x7d".toUTF8
  complaints.arguments _ := ""
  complaints.config _ := ""
  complaints.data _ text :=
    if text = "" then "EOF while parsing a value at line 1 column 0" else ""
  events
    | .options => [⟨.debug, "DEBUG compile options\n"⟩]
    | .compilation => [⟨.trace, "TRACE directive\n"⟩]
    | .render => [⟨.trace, "TRACE substitute\n"⟩]

def unbounded : StandardOutput := ⟨none, ""⟩

/-- The mapping with one name in it. -/
def named (text : String) : Data :=
  ⟨.mapping [("name", .string text)], List.pairwise_singleton _ _, trivial, trivial⟩

theorem desk_behind_of_ne {path : String} (hpath : path ≠ "input") :
    desk.behind [path] = desk := by
  apply behind_of_forall_ne
  intro other hother hread
  rw [List.mem_singleton.mp hother] at hread
  simp only [desk, if_neg hpath] at hread
  split_ifs at hread <;> simp at hread

theorem desk_fault_of_marker : desk.Fault "page"
    ⟨some "page", none, none, ⟨none, some "[", none⟩, 0⟩
    (desk.events .options ++ desk.events .compilation)
    "Error: ConfigurationError: [ has an odd number of metacharacters\n" := by
  have hread : TakenAs ((desk.behind []).bytesAt "page") (.ok "[name]") := by
    rw [behind_nil]
    exact .text rfl
  have hcompile : Template.ofSource (effectiveOptions ⟨none, some "[", none⟩ .empty)
      "[name]" = .error (.oddMarker "[") := by
    cbv
  have hlibrary : (CompileError.oddMarker "[").report "[name]" "page" =
      headline (.oddMarker "[") ++ "" := by
    decide
  exact .compile .unnamed hread hcompile hlibrary (by decide)

/-- The template takes the standard input, and nothing is left for the data. -/
theorem desk_fault_of_standard_input :
    desk.Fault "input" ⟨some "input", some "input", none, .empty, 2⟩
      (desk.events .options ++ desk.events .compilation)
      ("Error loading data 'input': Failed to parse JSON data: " ++
        "EOF while parsing a value at line 1 column 0\n") := by
  have hread : TakenAs ((desk.behind []).bytesAt "input")
      (.ok "\x7b\"name\": \"<\"\x7d") := by
    rw [behind_nil]
    exact .text rfl
  obtain ⟨template, hcompile⟩ : ∃ template,
      Template.ofSource (effectiveOptions .empty .empty)
        "\x7b\"name\": \"<\"\x7d" = .ok template :=
    ⟨_, by cbv⟩
  have hstandard : (desk.behind ["input"]).standard = .empty :=
    if_pos ⟨"input", List.mem_singleton_self _, rfl⟩
  have hempty : TakenAs ((desk.behind ["input"]).bytesAt "input") (.ok "") := by
    have hbytes : (desk.behind ["input"]).bytesAt "input" =
        .ok (desk.behind ["input"]).standard := rfl
    rw [hbytes, hstandard]
    exact .text rfl
  have hformat : dataFormat (some "input") = .json := by
    decide
  have hdata : dataOf? .json "" = none := by
    cbv
  refine .data (.intro .unnamed hread hcompile) (.malformed hempty ?_ ?_)
  · rw [hformat]
    exact hdata
  · rw [hformat]
    change _ = dataLabel (some "input") ++ malformedLabel .json ++
      desk.complaints.data .json "" ++ "\n"
    decide

theorem exists_desk_prepared_letter : ∃ template,
    desk.Prepared "letter"
      ⟨some "letter", some "names.toml", none, ⟨none, some "[]", none⟩, 0⟩ template
      (named "Ada") ∧
    template.expand (named "Ada").value = .error (.undefinedVariable "who") ∧
    delivered template (named "Ada").value = "Hi Ada, " := by
  obtain ⟨template, hcompile, hexpand, hdelivered⟩ : ∃ template,
      Template.ofSource (effectiveOptions ⟨none, some "[]", none⟩ .empty)
          "Hi [name], [who]" = .ok template ∧
        template.expand (.mapping [("name", .string "Ada")]) =
          .error (.undefinedVariable "who") ∧
        delivered template (.mapping [("name", .string "Ada")]) = "Hi Ada, " :=
    ⟨_, by cbv, by cbv, by cbv⟩
  have hread : TakenAs ((desk.behind []).bytesAt "letter") (.ok "Hi [name], [who]") := by
    rw [behind_nil]
    exact .text rfl
  have hformat : dataFormat (some "names.toml") = .toml := by
    decide
  have hdata : dataOf? .toml "name = \"Ada\"" =
      some (.mapping [("name", .string "Ada")]) := by
    cbv
  have hloaded : (desk.behind ["letter"]).Loaded (some "names.toml") (named "Ada") := by
    rw [desk_behind_of_ne (by decide)]
    refine ⟨"name = \"Ada\"", .text rfl, ?_⟩
    rw [hformat]
    exact hdata
  exact ⟨template, ⟨.intro .unnamed hread hcompile, hloaded⟩, hexpand, hdelivered⟩

theorem exists_desk_prepared_page : ∃ template,
    desk.Prepared "page"
      ⟨some "page", none, some "options", ⟨none, some "[]", none⟩, 0⟩ template
      (named "<") ∧
    template.expand (named "<").value = .ok "&lt;" := by
  obtain ⟨template, hcompile, hexpand⟩ : ∃ template,
      Template.ofSource
          (effectiveOptions ⟨none, some "[]", none⟩ ⟨none, some "<>", some "html"⟩)
          "[name]" = .ok template ∧
        template.expand (.mapping [("name", .string "<")]) = .ok "&lt;" :=
    ⟨_, by cbv, by cbv⟩
  have hconfig : Config.parse? "meta = \"<>\"\ndefault_formatter = \"html\"" =
      some ⟨none, some "<>", some "html"⟩ := by
    decide +kernel
  have hread : TakenAs ((desk.behind ["options"]).bytesAt "page") (.ok "[name]") := by
    rw [desk_behind_of_ne (by decide)]
    exact .text rfl
  have hdata : dataOf? .json "\x7b\"name\": \"<\"\x7d" =
      some (.mapping [("name", .string "<")]) := by
    cbv
  have hloaded : (desk.behind ["options", "page"]).Loaded none (named "<") := by
    rw [← List.singleton_append, ← behind_behind, desk_behind_of_ne (by decide),
      desk_behind_of_ne (by decide)]
    exact ⟨_, .text rfl, hdata⟩
  exact ⟨template, ⟨.intro (.named (.text rfl) hconfig) hread hcompile, hloaded⟩, hexpand⟩

/-- A run that ends at each of the stages, some with lines of the log, and one
that succeeds with a flag before an option file. -/
theorem run_result_at_each_stage :
    desk.run unbounded ["page", "-vv", "-c", "absent"] = ⟨1, .empty,
      "Error loading config 'absent': Failed to read config file: " ++
        "No such file or directory (os error 2)\n"⟩ ∧
    desk.run unbounded ["-v", "absent"] = ⟨1, .empty,
      "DEBUG compile options\nError reading file 'absent': " ++
        "No such file or directory (os error 2)\n"⟩ ∧
    desk.run unbounded ["page", "--meta=["] = ⟨1, .empty,
      "Error: ConfigurationError: [ has an odd number of metacharacters\n"⟩ ∧
    desk.run unbounded ["input", "-vv", "-d", "input"] = ⟨1, .empty,
      "DEBUG compile options\nTRACE directive\nError loading data 'input': " ++
        "Failed to parse JSON data: EOF while parsing a value at line 1 column 0\n"⟩ ∧
    desk.run unbounded ["letter", "-d", "names.toml", "--meta=[]"] = ⟨1,
      "Hi Ada, ".toUTF8, "Error: UndefinedVariable: who is not defined\n"⟩ ∧
    desk.run unbounded ["page", "-c", "options", "--meta=[]"] =
      ⟨0, "&lt;".toUTF8, ""⟩ := by
  have hroom : unbounded.room = none := rfl
  refine ⟨?_, ?_, ?_, ?_, ?_, ?_⟩
  · have hparsed : Request.parse? ["page", "-vv", "-c", "absent"] =
        some (.expand "page" ⟨some "page", none, some "absent", .empty, 2⟩) := by
      decide
    have hfault : desk.ConfigFault (some "absent") _ :=
      .unreadable (.missing "No such file or directory (os error 2)") rfl
    have hreport : logLines [] 2 ++
        ("Error loading config '" ++ "absent" ++ "': " ++
          "Failed to read config file: " ++
          "No such file or directory (os error 2)" ++ "\n") =
        "Error loading config 'absent': Failed to read config file: " ++
          "No such file or directory (os error 2)\n" := by
      decide +kernel
    have hresult := (run_result hparsed hroom).1 _ _ (.config hfault)
    exact hresult.trans (congrArg (Result.mk 1 _) hreport)
  · have hparsed : Request.parse? ["-v", "absent"] =
        some (.expand "absent" ⟨some "absent", none, none, .empty, 1⟩) := by
      decide
    have hread : TakenAs ((desk.behind []).bytesAt "absent") (.error _) :=
      .missing "No such file or directory (os error 2)"
    have hreport : logLines (desk.events .options) 1 ++
        ("Error reading file '" ++ "absent" ++ "': " ++
          "No such file or directory (os error 2)" ++ "\n") =
        "DEBUG compile options\nError reading file 'absent': " ++
          "No such file or directory (os error 2)\n" := by
      decide +kernel
    have hresult := (run_result hparsed hroom).1 _ _ (.template .unnamed hread rfl)
    exact hresult.trans (congrArg (Result.mk 1 _) hreport)
  · have hparsed : Request.parse? ["page", "--meta=["] =
        some (.expand "page" ⟨some "page", none, none, ⟨none, some "[", none⟩, 0⟩) := by
      decide
    have hreport : logLines (desk.events .options ++ desk.events .compilation) 0 ++
        "Error: ConfigurationError: [ has an odd number of metacharacters\n" =
        "Error: ConfigurationError: [ has an odd number of metacharacters\n" := by
      decide +kernel
    have hresult := (run_result hparsed hroom).1 _ _ desk_fault_of_marker
    exact hresult.trans (congrArg (Result.mk 1 _) hreport)
  · have hparsed : Request.parse? ["input", "-vv", "-d", "input"] =
        some (.expand "input" ⟨some "input", some "input", none, .empty, 2⟩) := by
      decide
    have hreport : logLines (desk.events .options ++ desk.events .compilation) 2 ++
        ("Error loading data 'input': Failed to parse JSON data: " ++
          "EOF while parsing a value at line 1 column 0\n") =
        "DEBUG compile options\nTRACE directive\nError loading data 'input': " ++
          "Failed to parse JSON data: EOF while parsing a value at line 1 column 0\n" := by
      decide +kernel
    have hresult := (run_result hparsed hroom).1 _ _ desk_fault_of_standard_input
    exact hresult.trans (congrArg (Result.mk 1 _) hreport)
  · have hparsed : Request.parse? ["letter", "-d", "names.toml", "--meta=[]"] =
        some (.expand "letter"
          ⟨some "letter", some "names.toml", none, ⟨none, some "[]", none⟩, 0⟩) := by
      decide
    obtain ⟨template, hprepared, hexpand, hdelivered⟩ := exists_desk_prepared_letter
    obtain ⟨name, hname, hresult⟩ :=
      ((run_result hparsed hroom).2.1 template _ hprepared).2 _ hexpand
    obtain rfl := RenderError.undefinedVariable.inj hname
    have hreport : logLines desk.allEvents 0 ++
        ("Error: UndefinedVariable: " ++ "who" ++ " is not defined\n") =
        "Error: UndefinedVariable: who is not defined\n" := by
      decide
    rw [hdelivered] at hresult
    exact hresult.trans (congrArg (Result.mk 1 _) hreport)
  · have hparsed : Request.parse? ["page", "-c", "options", "--meta=[]"] =
        some (.expand "page"
          ⟨some "page", none, some "options", ⟨none, some "[]", none⟩, 0⟩) := by
      decide
    obtain ⟨template, hprepared, hexpand⟩ := exists_desk_prepared_page
    exact ((run_result hparsed hroom).2.1 template _ hprepared).1 _ hexpand

end Inputs

end Stencil.CommandLine
