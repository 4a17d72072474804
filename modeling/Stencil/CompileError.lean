import Stencil.Text.Span

/-!
# Compile errors

What can keep a template from compiling.  Faults of the options have no place in the template;
every other error carries the span of the directive it is about.
-/

namespace Stencil

/-- The reasons for which a template does not compile. -/
inductive CompileError where
  /-- The separator between a name and its formatters is neither of the two allowed ones. -/
  | badSeparator
  /-- The marker has no characters. -/
  | emptyMarker
  /-- The marker has no two halves of equal length. -/
  | oddMarker (marker : String)
  /-- A directive ends a section where none is open. -/
  | tooManyEnds (span : Span)
  /-- A section is still open at the end of the template. -/
  | tooFewEnds (span : Span)
  /-- A substitution asks for a formatter that does not exist. -/
  | badFormatter (name : String) (span : Span)
  /-- A substitution names no formatter, and there is no default one. -/
  | missingFormatter (span : Span)
deriving DecidableEq, Repr

namespace CompileError

def kind : CompileError → String
  | .badSeparator | .emptyMarker | .oddMarker _ => "ConfigurationError"
  | .tooManyEnds _ | .tooFewEnds _ => "TemplateSyntaxError"
  | .badFormatter _ _ => "BadFormatter"
  | .missingFormatter _ => "MissingFormatter"

def message : CompileError → String
  | .badSeparator => "Only format characters : and | are accepted"
  | .emptyMarker => "meta must not be empty"
  | .oddMarker marker => marker ++ " has an odd number of metacharacters"
  | .tooManyEnds _ => "Got too many \x7bend\x7d statements"
  | .tooFewEnds _ => "Got too few \x7bend\x7d statements"
  | .badFormatter name _ => name ++ " is not a valid formatter"
  | .missingFormatter _ => "This template requires explicit formatters."

def span? : CompileError → Option Span
  | .badSeparator | .emptyMarker | .oddMarker _ => none
  | .tooManyEnds span | .tooFewEnds span | .badFormatter _ span | .missingFormatter span =>
    some span

def describe (error : CompileError) : String :=
  error.kind ++ ": " ++ error.message

end CompileError

end Stencil
