/-! # Doubles

The finite numbers that a double-precision float can hold, without their sign: a whole number
below `2 ^ 53` times a power of two.  `Double.ofRatio?` is the one nearest to a quotient;
between two equally near ones it takes the even one.
-/
namespace LaunchPlan

/-- The number `mantissa · 2 ^ exponent`. -/
structure Double where
  /-- The whole number. -/
  mantissa : Nat
  /-- The power of two. -/
  exponent : Int
  deriving DecidableEq, Repr

namespace Double

/-- The least power of two. -/
def minExponent : Int := -1074

/-- The greatest power of two. -/
def maxExponent : Int := 971

/-- Zero. -/
def zero : Double := ⟨0, minExponent⟩

/-- The whole number nearest to `n / d`; a half goes to the even neighbour. -/
def roundDiv (n d : Nat) : Nat :=
  let q := n / d
  let r := n % d
  if 2 * r < d then q else if d < 2 * r then q + 1 else q + q % 2

/-- The power of two at which `n / d` has 53 binary digits before the point. -/
def exponentOf (n d : Nat) : Int :=
  let guess : Int := (n.log2 : Int) - d.log2 - 52
  if n <<< (-guess).toNat / d <<< guess.toNat < Nat.pow 2 52 then guess - 1 else guess

/-- The double nearest to `n / d`, unless that is beyond all doubles. -/
def ofRatio? (n d : Nat) : Option Double :=
  if n = 0 then some zero
  else
    let e := max (exponentOf n d) minExponent
    let m := roundDiv (n <<< (-e).toNat) (d <<< e.toNat)
    let x : Double := if m = Nat.pow 2 53 then ⟨Nat.pow 2 52, e + 1⟩ else ⟨m, e⟩
    if x.exponent ≤ maxExponent then some x else none

end Double
end LaunchPlan
