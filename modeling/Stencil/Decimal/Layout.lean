import Stencil.Decimal.Shortest

/-!
# Decimal text

How the digits of a number are laid out: where the point goes, when a power of ten is written
instead of zeros, and what is put after a whole number.
-/

namespace Stencil

def naturalDigits (n : Nat) : List Char :=
  Nat.toDigits 10 n

/-- The decimal digits of an integer, after a minus sign when it is negative. -/
def integerDigits : Int → List Char
  | .ofNat n => naturalDigits n
  | .negSucc n => '-' :: naturalDigits (n + 1)

structure Layout where
  /-- Which of two equally near decimals is written. -/
  tie : Tie
  /-- The places of the first digit that are written with zeros, from the first to before the
  second; all places when absent. -/
  places : Option (Int × Int)
  afterWhole : List Char

namespace Layout

/-- In a value's text no power of ten is written, a whole number has no point, and a tie goes to
the greater decimal. -/
def plain : Layout := ⟨.up, none, []⟩

/-- In JSON a whole number keeps a point and a zero, the first digit's place is written out from
the fifth after the point up to the sixteenth before it, and a tie goes to the even digit. -/
def json : Layout := ⟨.even, some (-5, 16), ['.', '0']⟩

/-- Digits with a point, and zeros where the digits do not reach. -/
def positional (layout : Layout) (decimal : Decimal) : List Char :=
  let digits := naturalDigits decimal.digits
  let point : Int := digits.length + decimal.exponent
  if 0 ≤ decimal.exponent then
    digits ++ List.replicate decimal.exponent.toNat '0' ++ layout.afterWhole
  else if 0 < point then digits.take point.toNat ++ '.' :: digits.drop point.toNat
  else '0' :: '.' :: List.replicate (-point).toNat '0' ++ digits

/-- One digit before the point, and a power of ten with its sign. -/
def scientific (decimal : Decimal) : List Char :=
  let digits := naturalDigits decimal.digits
  let place : Int := digits.length + decimal.exponent - 1
  let fraction := match digits.tail with
    | [] => []
    | tail => '.' :: tail
  let sign := if place < 0 then '-' else '+'
  digits.take 1 ++ fraction ++ 'e' :: sign :: naturalDigits place.natAbs

def decimal (layout : Layout) (value : Decimal) : List Char :=
  let place : Int := (naturalDigits value.digits).length + value.exponent - 1
  match layout.places with
  | none => layout.positional value
  | some (least, bound) =>
    if least ≤ place && place < bound then layout.positional value else scientific value

/-- A double in the given layout; the sign of a zero is written. -/
def double (layout : Layout) (x : Float) : List Char :=
  let sign := if signBit x then ['-'] else []
  match magnitude x with
  | .notANumber => ['N', 'a', 'N']
  | .infinite => sign ++ ['i', 'n', 'f']
  | .finite size => sign ++ layout.decimal (size.shortest layout.tie)

end Layout

end Stencil
