import Stencil.Toml.Document

/-!
# Numbers in TOML documents

Integers come in four bases and must fit 64 bits; underscores may stand between two digits.
Floats are the nearest doubles; one too large for a double is an error when it is positive.
-/

namespace Stencil.Toml

/-- Further digits, with or without an underscore before each; `seen` are the digits read so far,
last one first. -/
def readMoreDigits (isDigit : Char → Bool) (seen : List Char) : List Char → List Char × List Char
  | [] => (seen.reverse, [])
  | '_' :: d :: rest =>
    if isDigit d then readMoreDigits isDigit (d :: seen) rest else (seen.reverse, '_' :: d :: rest)
  | c :: rest =>
    if isDigit c then readMoreDigits isDigit (c :: seen) rest else (seen.reverse, c :: rest)

def readDigits (isDigit : Char → Bool) : Reader (List Char)
  | [] => none
  | c :: rest => if isDigit c then some (readMoreDigits isDigit [c] rest) else none

/-- A sign, if there is one: whether it is a minus. -/
def readSign : List Char → Bool × List Char
  | '-' :: rest => (true, rest)
  | '+' :: rest => (false, rest)
  | rest => (false, rest)

/-- Decimal digits that do not start with a zero, or a zero alone. -/
def readDecimal : Reader (List Char)
  | '0' :: rest => some (['0'], rest)
  | text => readDigits Char.isDigit text

/-- An integer, if it fits 64 bits. -/
def integer? (n : Int) : Option Toml :=
  if Int64.minValue.toInt ≤ n ∧ n ≤ Int64.maxValue.toInt then some (.integer (Int64.ofInt n))
  else none

def readBased (base : Nat) (text : List Char) : Option (Toml × List Char) := do
  let isDigit (c : Char) : Bool := (hexValue? c).any (· < base)
  let (digits, rest) ← readDigits isDigit text
  let n ← spell? hexValue? base digits
  let value ← integer? n
  return (value, rest)

def readInteger : Reader Toml
  | '0' :: 'x' :: rest => readBased 16 rest
  | '0' :: 'o' :: rest => readBased 8 rest
  | '0' :: 'b' :: rest => readBased 2 rest
  | text => do
    let (negative, text) := readSign text
    let (digits, rest) ← readDecimal text
    let size : Int := Nat.ofDigitChars 10 digits 0
    let value ← integer? (if negative then -size else size)
    return (value, rest)

/-- The exponent of a float, if one is there. -/
def readExponent : Reader Int
  | c :: rest =>
    if c = 'e' || c = 'E' then do
      let (negative, rest) := readSign rest
      let (digits, rest) ← readDigits Char.isDigit rest
      let size : Int := Nat.ofDigitChars 10 digits 0
      return (if negative then -size else size, rest)
    else none
  | [] => none

/-- The fraction of a float, if one is there. -/
def readFraction : Reader (List Char)
  | '.' :: rest => readDigits Char.isDigit rest
  | _ => none

/-- A double with the given sign; a positive one must not be infinite. -/
def float? (negative : Bool) (size : Float) : Option Toml :=
  if negative then some (.float (-size))
  else if isFiniteNumber size then some (.float size)
  else none

def readFloat (text : List Char) : Option (Toml × List Char) := do
  let (negative, text) := readSign text
  let (whole, text) ← readDecimal text
  match readExponent text with
  | some (exponent, rest) =>
    let value ← float? negative (doubleOfDecimal (Nat.ofDigitChars 10 whole 0) exponent)
    return (value, rest)
  | none =>
    let (fraction, text) ← readFraction text
    let (exponent, rest) := (readExponent text).getD (0, text)
    let digits := Nat.ofDigitChars 10 (whole ++ fraction) 0
    let value ← float? negative (doubleOfDecimal digits (exponent - fraction.length))
    return (value, rest)

/-- Infinity or not a number, perhaps with a sign. -/
def readSpecial (text : List Char) : Option (Toml × List Char) :=
  let (negative, text) := readSign text
  let signed (size : Float) : Toml := .float (if negative then -size else size)
  match text with
  | 'i' :: 'n' :: 'f' :: rest => some (signed (1.0 / 0.0), rest)
  | 'n' :: 'a' :: 'n' :: rest => some (signed (0.0 / 0.0), rest)
  | _ => none

def readNumeric (text : List Char) : Option (Toml × List Char) :=
  ((readMoment text).map fun (instant, rest) => (.moment instant, rest)) <|>
    readFloat text <|> readSpecial text <|> readInteger text

end Stencil.Toml
