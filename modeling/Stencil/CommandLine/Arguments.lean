import Stencil.Config

/-!
# Arguments of the command line

Arguments are judged from left to right; the first one that is in error, or that asks for help,
decides.  An option takes its value from behind an equals sign, from behind its letter, or from
the next argument, which then must not look like an option.  After two hyphens alone every
argument names a template.
-/

namespace Stencil.CommandLine

inductive Setting where
  | data
  | config
  | separator
  | marker
  | defaultFormatter
deriving DecidableEq, Repr

structure Arguments where
  template : Option String
  data : Option String
  config : Option String
  given : Config
  verbosity : Nat
deriving DecidableEq, Repr

inductive Request where
  | help
  | expand (template : String) (arguments : Arguments)
deriving DecidableEq, Repr

namespace Arguments

/-- Before the first argument. -/
def start : Arguments := ⟨none, none, none, .empty, 0⟩

/-- A path; the empty text is none. -/
def path? (text : String) : Option String :=
  if text.isEmpty then none else some text

def character? (text : String) : Option Char :=
  match text.toList with
  | [c] => some c
  | _ => none

/-- Fills in something that may be said only once. -/
def once {α : Type} (held new : Option α) : Option (Option α) :=
  match held, new with
  | none, some a => some (some a)
  | _, _ => none

def set (arguments : Arguments) (text : String) : Setting → Option Arguments
  | .data => (once arguments.data (path? text)).map fun data => { arguments with data := data }
  | .config =>
    (once arguments.config (path? text)).map fun config => { arguments with config := config }
  | .separator =>
    (once arguments.given.separator (character? text)).map fun separator =>
      { arguments with given := { arguments.given with separator := separator } }
  | .marker =>
    (once arguments.given.marker (some text)).map fun marker =>
      { arguments with given := { arguments.given with marker := marker } }
  | .defaultFormatter =>
    (once arguments.given.defaultFormatter (some text)).map fun name =>
      { arguments with given := { arguments.given with defaultFormatter := name } }

def position (arguments : Arguments) (text : String) : Option Arguments :=
  (once arguments.template (path? text)).map fun template =>
    { arguments with template := template }

def louder (arguments : Arguments) : Arguments :=
  { arguments with verbosity := arguments.verbosity + 1 }

/-- What arguments without a further one ask for; a template has to be named. -/
def finish (arguments : Arguments) : Option Request :=
  arguments.template.map fun template => .expand template arguments

end Arguments

/-- What an option without its hyphens stands for. -/
inductive Flag where
  | help
  | verbose
  | setting (setting : Setting)
deriving DecidableEq, Repr

namespace Flag

def ofName? (name : String) : Option Flag :=
  [("help", .help), ("verbose", .verbose), ("data", .setting .data), ("config", .setting .config),
    ("format-char", .setting .separator), ("meta", .setting .marker),
    ("default-formatter", .setting .defaultFormatter)].lookup name

def ofLetter? (c : Char) : Option Flag :=
  [('h', .help), ('v', .verbose), ('d', .setting .data), ('c', .setting .config)].lookup c

end Flag

/-- The text before the first equals sign and, if there is one, the text after it. -/
def splitValue (text : List Char) : String × Option String :=
  let (name, rest) := text.span (· ≠ '=')
  (String.ofList name, rest.tail?.map String.ofList)

/-- Whether an argument looks like an option and cannot be the value of one. -/
def looksLikeOption (argument : String) : Bool :=
  match argument.toList with
  | '-' :: _ :: _ => true
  | _ => false

/-- What becomes of the arguments after one of them has been read. -/
inductive Next where
  | proceed (arguments : Arguments)
  | await (setting : Setting) (arguments : Arguments)
  | help

/-- Reads an option with a long name, given without its hyphens. -/
def readLong (arguments : Arguments) (text : List Char) : Option Next :=
  let (name, value) := splitValue text
  match Flag.ofName? name, value with
  | some .help, none => some .help
  | some .verbose, none => some (.proceed arguments.louder)
  | some (.setting setting), some value => (arguments.set value setting).map .proceed
  | some (.setting setting), none => some (.await setting arguments)
  | _, _ => none

/-- Reads options that are letters.  An option with a value takes the rest of the argument, less an
equals sign, unless nothing is left. -/
def readLetters (arguments : Arguments) : List Char → Option Next
  | [] => some (.proceed arguments)
  | c :: rest =>
    match Flag.ofLetter? c with
    | none => none
    | some .help => some .help
    | some .verbose => readLetters arguments.louder rest
    | some (.setting setting) =>
      match rest with
      | [] => some (.await setting arguments)
      | '=' :: value => (arguments.set (String.ofList value) setting).map .proceed
      | value => (arguments.set (String.ofList value) setting).map .proceed

def readArgument (arguments : Arguments) (argument : String) : Option Next :=
  match argument.toList with
  | '-' :: '-' :: name => readLong arguments name
  | '-' :: c :: letters => readLetters arguments (c :: letters)
  | _ => (arguments.position argument).map .proceed

def readPositions (arguments : Arguments) : List String → Option Request
  | [] => arguments.finish
  | argument :: rest =>
    match arguments.position argument with
    | none => none
    | some arguments => readPositions arguments rest

/-- Reads arguments; nothing comes of them when one is in error or no template is named. -/
def readArguments (arguments : Arguments) : List String → Option Request
  | [] => arguments.finish
  | argument :: rest =>
    if argument = "--" then readPositions arguments rest
    else
      match readArgument arguments argument with
      | none => none
      | some .help => some .help
      | some (.proceed arguments) => readArguments arguments rest
      | some (.await setting arguments) =>
        match rest with
        | [] => none
        | value :: rest =>
          if looksLikeOption value then none
          else
            match arguments.set value setting with
            | none => none
            | some arguments => readArguments arguments rest

/-- What a command line asks for; nothing when it is in error. -/
def Request.parse? (arguments : List String) : Option Request :=
  readArguments .start arguments

def helpText : String :=
  "Expand a JSON Template against structured data\n\n" ++
  "Usage: json-template [OPTIONS] <TEMPLATE>\n\n" ++
  "Arguments:\n" ++
  "  <TEMPLATE>  Template file\n\n" ++
  "Options:\n" ++
  "  -d, --data <DATA>\n" ++
  "          Data file: JSON, or TOML when the extension is .toml " ++
  "(reads JSON from stdin if not provided)\n" ++
  "  -c, --config <CONFIG>\n" ++
  "          Compile options file (TOML format)\n" ++
  "      --format-char <FORMAT_CHAR>\n" ++
  "          Formatter separator, `|` or `:`\n" ++
  "      --meta <META>\n" ++
  "          Delimiter marker with equal left and right halves\n" ++
  "      --default-formatter <DEFAULT_FORMATTER>\n" ++
  "          Default formatter name, or `none` to require explicit formatters\n" ++
  "  -v, --verbose...\n" ++
  "          Increase log verbosity (-v debug, -vv trace)\n" ++
  "  -h, --help\n" ++
  "          Print help\n"

end Stencil.CommandLine
