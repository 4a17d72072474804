import Stencil.Decimal.Binary

/-!
# Shortest decimals

The decimal with the fewest digits that is read back as a given double, and of several of that
length the nearest.  The search walks through the decimal grids from coarse to fine; on each it
looks at the value's two neighbours, and stops at the first grid where one of them lies among
the reals that round to the double.
-/

namespace Stencil

/-- Which of two equally near decimals is taken. -/
inductive Tie where
  | up
  | even
deriving DecidableEq, Repr

/-- The number `digits * 10 ^ exponent`. -/
structure Decimal where
  digits : Nat
  exponent : Int
deriving DecidableEq, Repr

namespace Dyadic

/-- The multiple of `10 ^ exponent` that is read back as `size`, if there is one; the nearer of
two.  All quantities are multiplied by a common factor that makes them whole. -/
def onGrid? (tie : Tie) (size : Dyadic) (exponent : Int) : Option Nat :=
  let quarter := Nat.pow 2 (size.exponent - 2).toNat * Nat.pow 10 (-exponent).toNat
  let step := Nat.pow 2 (2 - size.exponent).toNat * Nat.pow 10 exponent.toNat
  let value := 4 * size.significand * quarter
  let least := value - (if size.narrowBelow then quarter else 2 * quarter)
  let greatest := value + 2 * quarter
  let closed := size.significand % 2 = 0
  let low := value / step
  let lowFits := least < low * step || (closed && low * step = least)
  let highFits := (low + 1) * step < greatest || (closed && (low + 1) * step = greatest)
  let twice := 2 * (value - low * step)
  match lowFits, highFits with
  | true, true =>
    if twice < step then some low
    else if step < twice then some (low + 1)
    else match tie with
      | .up => some (low + 1)
      | .even => some (low + low % 2)
  | true, false => some low
  | false, true => some (low + 1)
  | false, false => none

/-- An exponent of ten above which no decimal grid meets `size`. -/
def coarsest (size : Dyadic) : Int :=
  (size.significand.log2 + 1 + size.exponent) * 30103 / 100000 + 1

/-- The first hit on the next `count` grids from `exponent` downward. -/
def searchGrids (tie : Tie) (size : Dyadic) : Nat → Int → Option Decimal
  | 0, _ => none
  | count + 1, exponent =>
    match size.onGrid? tie exponent with
    | some digits => some ⟨digits, exponent⟩
    | none => searchGrids tie size count (exponent - 1)

/-- The shortest decimal of a double; seventeen digits always suffice, and the coarsest grid is
at most a few steps above the first digit. -/
def shortest (tie : Tie) (size : Dyadic) : Decimal :=
  if size.significand = 0 then ⟨0, 0⟩
  else (searchGrids tie size 24 size.coarsest).getD ⟨0, 0⟩

end Dyadic

end Stencil
