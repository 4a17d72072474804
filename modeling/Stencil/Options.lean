import Stencil.CompileError
import Stencil.Formatter
import Stencil.Segment

/-!
# Compile options

How a template is written: the marker around directives, the separator in front of formatters,
the formatter of substitutions that name none, and formatters of the caller's own.
-/

namespace Stencil

structure Options where
  /-- Formatters that win over the built-in ones. -/
  formatters : Entries Formatter
  /-- The formatter of a substitution that names none; absent when each one has to. -/
  defaultFormatter : Option String
  separator : Char
  /-- The two halves of the marker, one after the other. -/
  marker : String

namespace Options

/-- No formatters of one's own, plain text by default, a bar as separator and braces as
marker. -/
def standard : Options :=
  ⟨[], some "str", '|', "\x7b\x7d"⟩

instance : Inhabited Options := ⟨standard⟩

/-- The halves of the marker.  The separator is checked first. -/
def delimiters (options : Options) : Except CompileError Delimiters :=
  let characters := options.marker.toList
  if options.separator ≠ ':' ∧ options.separator ≠ '|' then .error .badSeparator
  else if characters.length = 0 then .error .emptyMarker
  else if characters.length % 2 = 1 then .error (.oddMarker options.marker)
  else
    let half := characters.length / 2
    .ok ⟨characters.take half, characters.drop half⟩

/-- The form in which a developer sees options; of the formatters it shows the names. -/
def describe (options : Options) : String :=
  let names := ", ".intercalate (options.formatters.names.map Quoted.ofText)
  let default := match options.defaultFormatter with
    | some name => "Some(" ++ Quoted.ofText name ++ ")"
    | none => "None"
  "TemplateOptions \x7b more_formatters: [" ++ names ++ "], default_formatter: " ++ default ++
    ", format_char: " ++ Quoted.ofChar options.separator ++ ", meta: " ++
    Quoted.ofText options.marker ++ " \x7d"

end Options

end Stencil
