import Stencil.Compile
import Stencil.Json.Document
import Stencil.Render

/-!
# Templates

A template is compiled once and rendered any number of times.
-/

namespace Stencil

structure Template where
  program : Program

/-- The text of a failure that does not occur. -/
def neverText (failure : Never) : String :=
  nomatch failure

inductive Error where
  /-- The template does not compile. -/
  | compile (error : CompileError)
  /-- The template cannot be filled from the data. -/
  | render (error : RenderError Never)
  /-- A name in the data is no string. -/
  | nameNotString

def Error.message : Error → String
  | .compile error => error.describe
  | .render error => error.describe neverText
  | .nameNotString => "invalid data: key must be a string"

namespace Template

def ofSource (options : Options) (source : String) : Except CompileError Template :=
  match compile options source with
  | .ok program => .ok ⟨program⟩
  | .error error => .error error

/-- Runs a template over data, into a sink that is in the given state. -/
def render {σ ε : Type} (sink : Sink σ ε) (template : Template) (data : Value) (output : σ) :
    Outcome σ ε :=
  runAll sink template.program.main (Scope.ofData data) output

def expand (template : Template) (data : Value) : Except (RenderError Never) String :=
  let outcome := template.render Sink.string data ""
  match outcome.failure with
  | none => .ok outcome.output
  | some failure => .error failure

end Template

def expand (source : String) (data : Value) : Except Error String :=
  match Template.ofSource .standard source with
  | .error error => .error (.compile error)
  | .ok template =>
    match template.expand data with
    | .ok text => .ok text
    | .error error => .error (.render error)

/-- A key as a name: strings as they are, numbers and booleans by their JSON text. -/
def nameOfKey? : Json → Option String
  | .string s => some s
  | .boolean b => some (if b then "true" else "false")
  | .number (.natural n) => some (String.ofList (naturalDigits n.toNat))
  | .number (.negative n) => some (String.ofList (integerDigits n.toInt))
  | .number (.float x) => some (String.ofList (Layout.json.double x))
  | _ => none

/-- The mapping with the given keys and values, if every key makes a name; of several values
under one name the last one stays. -/
def mappingOfKeys? (pairs : List (Json × Value)) : Option Value :=
  let named (pair : Json × Value) : Option (String × Value) :=
    (nameOfKey? pair.1).map fun name => (name, pair.2.finite)
  (pairs.mapM named).map .ofPairs

/-- The output of a template, under standard options, for data given as keys and values.  The
template is compiled first. -/
def expandPairs (source : String) (pairs : List (Json × Value)) : Except Error String :=
  match Template.ofSource .standard source with
  | .error error => .error (.compile error)
  | .ok template =>
    match mappingOfKeys? pairs with
    | none => .error .nameNotString
    | some data =>
      match template.expand data with
      | .ok text => .ok text
      | .error error => .error (.render error)

end Stencil
