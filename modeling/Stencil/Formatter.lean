import Stencil.Text.Html
import Stencil.Text.Quoted
import Stencil.Value.Text

/-!
# Formatters

A formatter turns a value into text.  Four are built in; a template can bring its own, which win
over built-in ones of the same name.
-/

namespace Stencil

abbrev Formatter := Value → String

def htmlEscape (text : String) : String :=
  String.ofList (Html.escape text.toList)

def htmlTagEscape (text : String) : String :=
  String.ofList (Html.escapeAttribute text.toList)

structure NamedFormatter where
  name : String
  apply : Formatter

namespace NamedFormatter

def describe (formatter : NamedFormatter) : String :=
  "NamedFormatter(" ++ Quoted.ofText formatter.name ++ ")"

/-- The formatters that every template can use. -/
def builtIn : Entries Formatter :=
  [("html", fun value => htmlEscape value.text), ("htmltag", fun value => htmlTagEscape value.text),
    ("raw", Value.text), ("str", Value.text)]

/-- The formatter of a given name, one of `own` before a built-in one. -/
def find? (own : Entries Formatter) (name : String) : Option NamedFormatter :=
  ((own.get? name).or (builtIn.get? name)).map fun apply => ⟨name, apply⟩

end NamedFormatter

/-- Applies formatters from left to right; the first one gets the value, each later one the text
that the one before it made.  Without formatters the value's own text is taken. -/
def formatWith (formatters : List NamedFormatter) (value : Value) : String :=
  match formatters with
  | [] => value.text
  | first :: rest =>
    rest.foldl (fun text formatter => formatter.apply (.string text)) (first.apply value)

end Stencil
