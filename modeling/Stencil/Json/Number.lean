import Stencil.Json.Document
import Stencil.Text.Reader

/-!
# Numbers in JSON texts

The grammar of JSON numbers and their values.  An integer literal is exact while it fits 64 bits.
Any other number is read by scaling: its digits are collected into a 64-bit word, digits that no
longer fit are dropped, and the word is multiplied or divided by the power of ten that is left.
The result can differ from the nearest double in the last place.  A number too large for a
double is an error; one too small is zero.
-/

namespace Stencil.Json

/-- Puts digits behind a 64-bit word as long as the word holds them; the word and the digits that
did not fit. -/
def packDigits (word : Nat) : List Char → Nat × List Char
  | [] => (word, [])
  | c :: rest =>
    let next := word * 10 + digitValue c
    if next < Nat.pow 2 64 then packDigits next rest else (word, c :: rest)

def powerOfTen (exponent : Nat) : Float :=
  nearestDouble (Nat.pow 10 exponent) 1

/-- `x * 10 ^ exponent` for a negative exponent, in steps that doubles can hold. -/
def scaleDown (x : Float) : Nat → Nat → Float
  | 0, _ => 0
  | steps + 1, exponent =>
    if exponent ≤ 308 then x / powerOfTen exponent
    else scaleDown (x / powerOfTen 308) steps (exponent - 308)

/-- `word * 10 ^ exponent` as a double, unless that is too large.  Three steps down reach zero
from any word. -/
def scale? (word : Nat) (exponent : Int) : Option Float :=
  let x := (UInt64.ofNat word).toFloat
  if word = 0 then some x
  else if exponent < 0 then some (scaleDown x 4 exponent.natAbs)
  else if 308 < exponent then none
  else
    let scaled := x * powerOfTen exponent.toNat
    if isFiniteNumber scaled then some scaled else none

/-- The exponent of a number: a letter, perhaps a sign, and digits.  No letter, no exponent. -/
def readExponent : Reader (Option Int)
  | c :: rest =>
    if c = 'e' || c = 'E' then
      let (negative, rest) := match rest with
        | '-' :: rest => (true, rest)
        | '+' :: rest => (false, rest)
        | rest => (false, rest)
      match spanDigits rest with
      | ([], _) => none
      | (digits, rest) =>
        let size : Int := Nat.ofDigitChars 10 digits 0
        some (some (if negative then -size else size), rest)
    else some (none, c :: rest)
  | [] => some (none, [])

/-- The fraction of a number: a point and digits.  No point, no fraction. -/
def readFraction : Reader (Option (List Char))
  | '.' :: rest =>
    match spanDigits rest with
    | ([], _) => none
    | (digits, rest) => some (some digits, rest)
  | rest => some (none, rest)

/-- The digits before the point: zero alone, or digits that do not start with zero. -/
def readWhole : Reader (List Char)
  | '0' :: rest =>
    match rest with
    | c :: _ => if c.isDigit then none else some (['0'], rest)
    | [] => some (['0'], [])
  | text =>
    match spanDigits text with
    | ([], _) => none
    | (digits, rest) => some (digits, rest)

/-- A double with its sign changed if `negative`. -/
def withSign (negative : Bool) (x : Float) : Float :=
  if negative then -x else x

def numberOfParts (negative : Bool) (whole : List Char) (fraction : Option (List Char))
    (exponent : Option Int) : Option Number :=
  let (word, dropped) := packDigits 0 whole
  if fraction.isNone && exponent.isNone && dropped.isEmpty && !(negative && word = 0) &&
      !(negative && Nat.pow 2 63 < word) then
    some (if negative then .negative (Int64.ofInt (-word)) else .natural (UInt64.ofNat word))
  else
    let digits := fraction.getD []
    let (word, beyond) := packDigits word digits
    let taken := digits.length - beyond.length
    let exponent := exponent.getD 0 + dropped.length - taken
    (scale? word exponent).map fun x => .float (withSign negative x)

def readNumber (text : List Char) : Option (Number × List Char) := do
  let (negative, text) := match text with
    | '-' :: rest => (true, rest)
    | rest => (false, rest)
  let (whole, text) ← readWhole text
  let (fraction, text) ← readFraction text
  let (exponent, text) ← readExponent text
  let number ← numberOfParts negative whole fraction exponent
  return (number, text)

end Stencil.Json
