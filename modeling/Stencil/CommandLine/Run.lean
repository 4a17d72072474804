import Stencil.CommandLine.Arguments
import Stencil.CommandLine.Files
import Stencil.Json.Reader
import Stencil.Report
import Stencil.Template

/-!
# Running the command line

The program as a function of its arguments and of what it finds around it.  The stages come in a
fixed order, options, template, compilation, data, rendering, and the first one that fails ends
the run with a report on the standard error, behind the lines that have been logged there.

Where the wording of a cause is up to others, to the system or to the readers of options, data
and arguments, it comes from outside.
-/

namespace Stencil.CommandLine

inductive Format where
  | json
  | toml
deriving DecidableEq, Repr

/-- What the readers say of a text that they refuse. -/
structure Complaints where
  arguments : List String → String
  config : String → String
  data : Format → String → String

/-- The events that are logged; none is a warning. -/
inductive Detail where
  | debug
  | trace
deriving DecidableEq, Repr

/-- Something that a run logs; the line for it also tells when. -/
structure Event where
  detail : Detail
  line : String

/-- The stages of a run that log something. -/
inductive Stage where
  | options
  | compilation
  | render
deriving DecidableEq, Repr

/-- How much of what is logged is shown. -/
inductive Level where
  | warnings
  | debug
  | trace
deriving DecidableEq, Repr

namespace Level

def ofVerbosity : Nat → Level
  | 0 => .warnings
  | 1 => .debug
  | _ => .trace

def shows : Level → Detail → Bool
  | .warnings, _ => false
  | .debug, detail => detail = .debug
  | .trace, _ => true

end Level

/-- What a run finds: files or the causes why they cannot be read, the standard input, how readers
put their complaints, and what each stage logs as far as it gets. -/
structure Inputs where
  read : String → Except String File
  standard : ByteArray
  complaints : Complaints
  events : Stage → List Event

/-- How much the standard output takes, and the cause that it gives for not taking more; without a
bound it takes everything. -/
structure StandardOutput where
  room : Option Nat
  refusal : String

structure Result where
  code : UInt8
  output : ByteArray
  errors : String

inductive DataError where
  | unreadable (cause : String)
  | malformed (format : Format) (cause : String)
deriving DecidableEq, Repr

def DataError.message : DataError → String
  | .unreadable cause => "Failed to read data: " ++ cause
  | .malformed .json cause => "Failed to parse JSON data: " ++ cause
  | .malformed .toml cause => "Failed to parse TOML data: " ++ cause

inductive ConfigError where
  | unreadable (cause : String)
  | malformed (cause : String)
deriving DecidableEq, Repr

def ConfigError.message : ConfigError → String
  | .unreadable cause => "Failed to read config file: " ++ cause
  | .malformed cause => "Failed to parse config TOML: " ++ cause

inductive Failure where
  | config (path : String) (error : ConfigError)
  | template (path cause : String)
  | compile (path source : String) (error : CompileError)
  | data (path : Option String) (error : DataError)
  | render (error : RenderError String)
  | output (cause : String)

/-- The stages that the run has come to before the failure is reported. -/
def Failure.stages : Failure → List Stage
  | .config .. => []
  | .template .. => [.options]
  | .compile .. | .data .. => [.options, .compilation]
  | .render .. | .output .. => [.options, .compilation, .render]

def Failure.report : Failure → String
  | .config path error => "Error loading config '" ++ path ++ "': " ++ error.message ++ "\n"
  | .template path cause => "Error reading file '" ++ path ++ "': " ++ cause ++ "\n"
  | .compile path source error => error.report source path
  | .data (some path) error => "Error loading data '" ++ path ++ "': " ++ error.message ++ "\n"
  | .data none error => "Error loading data from stdin: " ++ error.message ++ "\n"
  | .render error => "Error: " ++ error.describe id ++ "\n"
  | .output cause => "Error writing output: " ++ cause ++ "\n"

namespace Inputs

def readText (inputs : Inputs) (path : String) : Except String String :=
  match inputs.read path with
  | .ok (.stored bytes) => decodeText bytes
  | .ok .standardInput => decodeText inputs.standard
  | .error cause => .error cause

def readsStandardInput (inputs : Inputs) (path : String) : Bool :=
  match inputs.read path with
  | .ok .standardInput => true
  | _ => false

/-- What is left once some paths have been read: nothing more comes from the standard input if one
of them leads to it. -/
def afterReading (inputs : Inputs) (paths : List String) : Inputs :=
  if paths.any inputs.readsStandardInput then
    { inputs with standard := .empty }
  else inputs

/-- The options in a file, none without a file. -/
def loadConfig (inputs : Inputs) (path : Option String) : Except Failure Config :=
  match path with
  | none => .ok .empty
  | some path =>
    match inputs.readText path with
    | .error cause => .error (.config path (.unreadable cause))
    | .ok text =>
      match Config.parse? text with
      | none => .error (.config path (.malformed (inputs.complaints.config text)))
      | some config => .ok config

def loadTemplate (inputs : Inputs) (options : Options) (path : String) : Except Failure Template :=
  match inputs.readText path with
  | .error cause => .error (.template path cause)
  | .ok source =>
    match Template.ofSource options source with
    | .error error => .error (.compile path source error)
    | .ok template => .ok template

def formatOf (path : String) : Format :=
  if extension? path = some "toml" then .toml else .json

def parseData? (format : Format) (text : String) : Option Data :=
  match format with
  | .json => (Json.parse? text).map Json.toData
  | .toml => (Toml.parse? text).bind Toml.toData?

/-- The data in a file, or, without a file, on the standard input. -/
def loadData (inputs : Inputs) (path : Option String) : Except Failure Data :=
  let text := match path with
    | some path => inputs.readText path
    | none => decodeText inputs.standard
  let format := match path with
    | some path => formatOf path
    | none => .json
  match text with
  | .error cause => .error (.data path (.unreadable cause))
  | .ok text =>
    match parseData? format text with
    | none => .error (.data path (.malformed format (inputs.complaints.data format text)))
    | some data => .ok data

def prepare (inputs : Inputs) (path : String) (arguments : Arguments) :
    Except Failure (Template × Data) := do
  let config ← inputs.loadConfig arguments.config
  let inputs := inputs.afterReading arguments.config.toList
  let template ← inputs.loadTemplate (arguments.given.orElse config).options path
  let inputs := inputs.afterReading [path]
  let data ← inputs.loadData arguments.data
  return (template, data)

/-- The lines that a run shows of what the stages log. -/
def logged (inputs : Inputs) (arguments : Arguments) (stages : List Stage) : String :=
  let level := Level.ofVerbosity arguments.verbosity
  let shown := (stages.flatMap inputs.events).filter fun event => level.shows event.detail
  String.join (shown.map Event.line)

/-- How many bytes wait before they are passed on to the standard output. -/
def bufferCapacity : Nat := 8192

/-- Renders into the standard output, through a buffer that is flushed at the end, also when the
render has failed. -/
def write (output : StandardOutput) (template : Template) (data : Data) :
    ByteArray × Option Failure :=
  let outcome :=
    template.render (.buffered output.refusal bufferCapacity) data.value (.empty output.room)
  let (flushed, refused) := outcome.output.flush output.refusal
  match outcome.failure with
  | some error => (flushed.passed.written, some (.render error))
  | none => (flushed.passed.written, refused.map .output)

def expand (inputs : Inputs) (output : StandardOutput) (template : String)
    (arguments : Arguments) : Result :=
  let log := inputs.logged arguments
  match inputs.prepare template arguments with
  | .error failure => ⟨1, .empty, log failure.stages ++ failure.report⟩
  | .ok (template, data) =>
    match write output template data with
    | (written, none) => ⟨0, written, log [.options, .compilation, .render]⟩
    | (written, some failure) => ⟨1, written, log failure.stages ++ failure.report⟩

def run (inputs : Inputs) (output : StandardOutput) (arguments : List String) : Result :=
  match Request.parse? arguments with
  | none => ⟨2, .empty, inputs.complaints.arguments arguments⟩
  | some .help => ⟨0, helpText.toUTF8, ""⟩
  | some (.expand template arguments) => inputs.expand output template arguments

end Inputs

end Stencil.CommandLine
