import LaunchPlan.Decimal.Double
import LaunchPlan.Text.Numeral

/-! # Decimals

A decimal is a whole number times a power of ten, as it is written with digits, a point and
an exponent.  `Decimal.toDouble?` is the double nearest to it.
-/
namespace LaunchPlan

/-- The number `digits · 10 ^ power`. -/
structure Decimal where
  /-- The whole number. -/
  digits : Nat
  /-- The power of ten. -/
  power : Int
  deriving DecidableEq, Repr

namespace Decimal

/-- How many digits a number has; zero has one. -/
def length (n : Nat) : Nat := (Nat.toDigits 10 n).length

/-- Reads an optional sign; the answer says whether it is a minus. -/
def sign : List Char → Bool × List Char
  | '-' :: cs => (true, cs)
  | '+' :: cs => (false, cs)
  | cs => (false, cs)

/-- Reads the exponent at the end of a decimal: nothing, or the letter and a number. -/
def exponent? : List Char → Option Int
  | [] => some 0
  | c :: cs =>
    let (isNegative, digits) := sign cs
    if c = 'e' ∨ c = 'E' then
      (Numeral.read? 10 digits).map fun (n : Nat) => if isNegative then -(n : Int) else n
    else none

/-- Reads a decimal without a sign: digits, perhaps with a point among them or at an end, and
perhaps an exponent. -/
def parse? (cs : List Char) : Option Decimal := do
  let whole := cs.takeWhile Char.isDigit
  let rest := cs.dropWhile Char.isDigit
  let (fraction, rest) :=
    match rest with
    | '.' :: rest => (rest.takeWhile Char.isDigit, rest.dropWhile Char.isDigit)
    | rest => ([], rest)
  let digits ← Numeral.read? 10 (whole ++ fraction)
  some ⟨digits, (← exponent? rest) - fraction.length⟩

/-- The double nearest to a decimal, unless that is beyond all doubles.  A number of more than
310 digits before the point is beyond, one with 330 zeros behind the point is zero. -/
def toDouble? (x : Decimal) : Option Double :=
  let magnitude : Int := length x.digits + x.power
  if x.digits = 0 ∨ magnitude < -330 then some Double.zero
  else if 310 < magnitude then none
  else Double.ofRatio? (x.digits * Nat.pow 10 x.power.toNat) (Nat.pow 10 (-x.power).toNat)

end Decimal
end LaunchPlan
