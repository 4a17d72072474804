/-!
# Binary fractions

A finite double is a whole number times a power of two.  This module takes a double apart into
that form and finds the double nearest to a quotient of whole numbers; a quotient half way
between two doubles goes to the one with the even significand.
-/

namespace Stencil

/-- The number `significand * 2 ^ exponent`. -/
structure Dyadic where
  significand : Nat
  exponent : Int
deriving DecidableEq, Repr

inductive Magnitude where
  | notANumber
  | infinite
  | finite (size : Dyadic)
deriving DecidableEq, Repr

namespace Dyadic

/-- The significand of every double from the least normal one upward is below twice this. -/
def implicitBit : Nat := Nat.pow 2 52

def leastExponent : Int := -1074

/-- Whether the double below lies only half as far away as the double above. -/
def narrowBelow (size : Dyadic) : Bool :=
  size.significand = implicitBit && leastExponent < size.exponent

end Dyadic

def signBit (x : Float) : Bool :=
  Nat.pow 2 63 ≤ x.toBits.toNat

/-- A double without its sign. -/
def magnitude (x : Float) : Magnitude :=
  let bits := x.toBits.toNat % Nat.pow 2 63
  let field := bits / Dyadic.implicitBit
  let fraction := bits % Dyadic.implicitBit
  if field = 2047 then if fraction = 0 then .infinite else .notANumber
  else if field = 0 then .finite ⟨fraction, Dyadic.leastExponent⟩
  else .finite ⟨Dyadic.implicitBit + fraction, field + Dyadic.leastExponent - 1⟩

/-- Whether a double is a number and not infinite. -/
def isFiniteNumber (x : Float) : Bool :=
  match magnitude x with
  | .finite _ => true
  | _ => false

/-- The whole number nearest to `num / den`, the even one of two. -/
def roundDiv (num den : Nat) : Nat :=
  let quotient := num / den
  let twice := 2 * (num % den)
  if twice < den then quotient
  else if den < twice then quotient + 1
  else quotient + quotient % 2

/-- The double nearest to `num / den`, infinity from half a step past the greatest one. -/
def nearestDouble (num den : Nat) : Float :=
  if num = 0 then 0 else
  let guess : Int := (num.log2 : Int) - den.log2 - 52
  let small :=
    num * Nat.pow 2 (-guess).toNat < Dyadic.implicitBit * den * Nat.pow 2 guess.toNat
  let exponent := max (if small then guess - 1 else guess) Dyadic.leastExponent
  let significand :=
    roundDiv (num * Nat.pow 2 (-exponent).toNat) (den * Nat.pow 2 exponent.toNat)
  let bits := (exponent - Dyadic.leastExponent).toNat * Dyadic.implicitBit + significand
  Float.ofBits (UInt64.ofNat (min bits (2047 * Dyadic.implicitBit)))

/-- The double nearest to `digits * 10 ^ exponent`.  Powers far outside the range of doubles are
not computed. -/
def doubleOfDecimal (digits : Nat) (exponent : Int) : Float :=
  let leading : Int := (Nat.toDigits 10 digits).length + exponent
  if digits = 0 || leading < -400 then 0
  else if 400 < leading then nearestDouble (Nat.pow 2 1024) 1
  else nearestDouble (digits * Nat.pow 10 exponent.toNat) (Nat.pow 10 (-exponent).toNat)

end Stencil
