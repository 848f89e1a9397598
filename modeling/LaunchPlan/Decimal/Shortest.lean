import LaunchPlan.Decimal.Basic

/-! # The shortest decimal of a double

Of the decimals that read back as a double, `Double.shortest` is one with the fewest digits,
and of those the nearest; between two equally near ones it takes the even one.  `Double.text`
writes it with at least one digit behind the point, as far as the point is not too far from
the digits.
-/
namespace LaunchPlan
namespace Double

/-- The numbers that round to a double, as fractions of one denominator. -/
structure Interval where
  /-- The numerator of the lower end. -/
  lower : Nat
  /-- The numerator of the double itself. -/
  value : Nat
  /-- The numerator of the upper end. -/
  upper : Nat
  /-- The denominator. -/
  denominator : Nat
  /-- Whether the ends round to the double, too. -/
  isClosed : Bool

/-- The interval of the numbers that round to a double.  Below a power of two the doubles are
closer together. -/
def interval (x : Double) : Interval :=
  let q := x.exponent - 2
  let unit := 1 <<< q.toNat
  let gap := if x.mantissa = Nat.pow 2 52 ∧ minExponent < x.exponent then 1 else 2
  ⟨(4 * x.mantissa - gap) * unit, 4 * x.mantissa * unit, (4 * x.mantissa + 2) * unit,
    1 <<< (-q).toNat, x.mantissa % 2 == 0⟩

/-- How many digits a positive number `n / d` has before the point; a number below a tenth has
less than none. -/
def magnitude (n d : Nat) : Int :=
  if d ≤ n then Decimal.length (n / d) else 1 - (Decimal.length ((d - 1) / n) : Int)

/-- Whether a decimal lies in an interval. -/
def Interval.contains (i : Interval) (x : Decimal) : Bool :=
  let n := x.digits * Nat.pow 10 x.power.toNat * i.denominator
  let s := Nat.pow 10 (-x.power).toNat
  if i.isClosed then i.lower * s ≤ n && n ≤ i.upper * s
  else i.lower * s < n && n < i.upper * s

/-- The nearest decimal of the interval among the two neighbours of its double that are
multiples of `10 ^ power`. -/
def Interval.neighbour? (i : Interval) (power : Int) : Option Decimal :=
  let n := i.value * Nat.pow 10 (-power).toNat
  let d := i.denominator * Nat.pow 10 power.toNat
  let below : Decimal := ⟨n / d, power⟩
  let above : Decimal := ⟨n / d + 1, power⟩
  if i.contains below then
    if i.contains above ∧ d < 2 * (n % d) + (n / d) % 2 then some above else some below
  else if i.contains above then some above
  else none

/-- A decimal without zeros at the end of its digits; `fuel` bounds how many go. -/
def dropZeros (fuel : Nat) (x : Decimal) : Decimal :=
  match fuel with
  | 0 => x
  | fuel + 1 =>
    if x.digits ≠ 0 ∧ x.digits % 10 = 0 then dropZeros fuel ⟨x.digits / 10, x.power + 1⟩ else x

/-- The decimal with the fewest digits that reads back as a positive double. -/
def shortest (x : Double) : Decimal :=
  let i := x.interval
  let size := magnitude i.value i.denominator
  let found := (List.range 17).findSome? fun k : Nat => i.neighbour? (size - 1 - k)
  dropZeros 20 (found.getD ⟨0, 0⟩)

/-- The notation of a decimal with these digits, the point being behind the first `point` of
them. -/
def layout (digits : List Char) (point : Int) : List Char :=
  let count : Int := digits.length
  let zeros (n : Int) : List Char := List.replicate n.toNat '0'
  if count ≤ point ∧ point ≤ 16 then digits ++ zeros (point - count) ++ ['.', '0']
  else if 0 < point ∧ point ≤ 16 then
    digits.take point.toNat ++ '.' :: digits.drop point.toNat
  else if -5 < point ∧ point ≤ 0 then '0' :: '.' :: zeros (-point) ++ digits
  else
    let fraction := if digits.length = 1 then [] else '.' :: digits.drop 1
    digits.take 1 ++ fraction ++ 'e' :: (toString (point - 1)).toList

/-- The shortest text of a double: positional from `0.00001` to below `10 ^ 16`, with an
exponent otherwise. -/
def text (x : Double) : String :=
  if x.mantissa = 0 then "0.0"
  else
    let s := x.shortest
    let digits := Nat.toDigits 10 s.digits
    String.ofList (layout digits (s.power + digits.length))

end Double
end LaunchPlan
