import Stencil.Options
import Stencil.Toml.Reader

/-!
# Option files

Options can be given in a TOML document with at most three entries.  What a document leaves out
keeps its standard value; the default formatter `none` means that there is none.
-/

namespace Stencil

structure Config where
  separator : Option Char
  marker : Option String
  defaultFormatter : Option String
deriving DecidableEq, Repr

namespace Config

def empty : Config := ⟨none, none, none⟩

instance : Inhabited Config := ⟨empty⟩

/-- The name under which a document asks for no default formatter. -/
def noDefaultFormatter : String := "none"

/-- The configuration with one more entry; other names, and values of another kind than text, are
refused, as is a separator that is not a single character. -/
def withEntry? (config : Config) : String × Toml → Option Config
  | ("format_char", .string s) =>
    match s.toList with
    | [c] => some { config with separator := some c }
    | _ => none
  | ("meta", .string s) => some { config with marker := some s }
  | ("default_formatter", .string s) => some { config with defaultFormatter := some s }
  | _ => none

def ofToml? : Toml → Option Config
  | .table entries => entries.foldlM withEntry? empty
  | _ => none

def parse? (text : String) : Option Config :=
  (Toml.parse? text).bind ofToml?

/-- The configuration with the given entries of `first` before those of `second`. -/
def orElse (first second : Config) : Config :=
  ⟨first.separator.or second.separator, first.marker.or second.marker,
    first.defaultFormatter.or second.defaultFormatter⟩

def options (config : Config) : Options :=
  ⟨[],
    match config.defaultFormatter with
    | none => Options.standard.defaultFormatter
    | some name => if name = noDefaultFormatter then none else some name,
    config.separator.getD Options.standard.separator, config.marker.getD Options.standard.marker⟩

end Config

end Stencil
