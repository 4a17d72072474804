import Stencil.Decimal.Layout
import Stencil.Value

/-!
# Writing JSON

The compact JSON text of a value: no white space, mappings in the order of their names, and in
strings only the escapes that JSON demands.  A double that is no finite number has no JSON form
and is written as null.
-/

namespace Stencil.Json

def escape (c : Char) : List Char :=
  if c = '"' || c = '\\' then ['\\', c]
  else if c = '\n' then ['\\', 'n']
  else if c = '\r' then ['\\', 'r']
  else if c = '\t' then ['\\', 't']
  else if c.toNat = 8 then ['\\', 'b']
  else if c.toNat = 12 then ['\\', 'f']
  else if c.toNat < 32 then
    ['\\', 'u', '0', '0', Nat.digitChar (c.toNat / 16), Nat.digitChar (c.toNat % 16)]
  else [c]

def quote (text : List Char) : List Char :=
  '"' :: text.flatMap escape ++ ['"']

/-- A double as a JSON number, or null. -/
def writeFloat (x : Float) : List Char :=
  if isFiniteNumber x then Layout.json.double x else "null".toList

mutual

def write : Value → List Char
  | .null => "null".toList
  | .boolean b => (if b then "true" else "false").toList
  | .integer n => integerDigits n.toInt
  | .float x => writeFloat x
  | .string s => quote s.toList
  | .sequence items => '[' :: writeItems items ++ [']']
  | .mapping entries => '\x7b' :: writeEntries entries ++ ['\x7d']

def writeItems : List Value → List Char
  | [] => []
  | [item] => write item
  | item :: rest => write item ++ ',' :: writeItems rest

def writeEntries : Entries Value → List Char
  | [] => []
  | [(name, value)] => quote name.toList ++ ':' :: write value
  | (name, value) :: rest => quote name.toList ++ ':' :: write value ++ ',' :: writeEntries rest

end

end Stencil.Json

namespace Stencil.Value

def json (value : Value) : String :=
  String.ofList (Json.write value)

end Stencil.Value
