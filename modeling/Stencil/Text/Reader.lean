/-!
# Readers

A reader takes something off the front of a text and gives what is left, or nothing when the text
does not start with what it looks for.
-/

namespace Stencil

abbrev Reader (α : Type) := List Char → Option (α × List Char)

def digitValue (c : Char) : Nat :=
  c.toNat - '0'.toNat

def hexValue? (c : Char) : Option Nat :=
  if c.isDigit then some (digitValue c)
  else if 'a' ≤ c && c ≤ 'f' then some (c.toNat - 'a'.toNat + 10)
  else if 'A' ≤ c && c ≤ 'F' then some (c.toNat - 'A'.toNat + 10)
  else none

/-- The number that digits spell in a base, each read by `digit?`. -/
def spell? (digit? : Char → Option Nat) (base : Nat) (digits : List Char) : Option Nat :=
  digits.foldl (fun n c => n.bind fun n => (digit? c).map (n * base + ·)) (some 0)

def spanDigits (text : List Char) : List Char × List Char :=
  text.span Char.isDigit

end Stencil
