import Stencil.Json.Writer

/-!
# The text of a value

What a substitution writes: nothing for null, the bare text of a string, the items of a sequence
with commas between them at every depth, and the JSON text of a mapping.
-/

namespace Stencil.Value

mutual

def characters : Value → List Char
  | .null => []
  | .boolean b => (if b then "true" else "false").toList
  | .integer n => integerDigits n.toInt
  | .float x => Layout.plain.double x
  | .string s => s.toList
  | .sequence items => itemCharacters items
  | .mapping entries => Json.write (.mapping entries)

def itemCharacters : List Value → List Char
  | [] => []
  | [item] => characters item
  | item :: rest => characters item ++ ',' :: itemCharacters rest

end

def text (value : Value) : String :=
  String.ofList value.characters

mutual

/-- The value with null in place of every double that is no finite number. -/
def finite : Value → Value
  | .float x => if isFiniteNumber x then .float x else .null
  | .sequence items => .sequence (finiteItems items)
  | .mapping entries => .mapping (finiteEntries entries)
  | value => value

/-- Each item with null in place of the numbers that are not finite. -/
def finiteItems : List Value → List Value
  | [] => []
  | item :: rest => finite item :: finiteItems rest

/-- Each entry with null in place of the numbers that are not finite. -/
def finiteEntries : Entries Value → Entries Value
  | [] => []
  | (name, value) :: rest => (name, finite value) :: finiteEntries rest

end

end Stencil.Value
