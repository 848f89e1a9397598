/-! # Numerals

Whole numbers in digits of a base up to sixteen.  `read?` is exact: a text is read only if it
has digits of the base and nothing else.
-/
namespace LaunchPlan
namespace Numeral

/-- The value of a digit; letters of either case stand for ten to fifteen, and a character
that is no digit has the value sixteen. -/
def digitValue (c : Char) : Nat :=
  if c.isDigit then c.toNat - 48
  else if 'a' ≤ c ∧ c ≤ 'f' then c.toNat - 87
  else if 'A' ≤ c ∧ c ≤ 'F' then c.toNat - 55
  else 16

/-- The value of a digit of a base. -/
def digit? (base : Nat) (c : Char) : Option Nat :=
  if digitValue c < base then some (digitValue c) else none

/-- The number that digits of a base write, with the number `n` before them. -/
def readFrom? (base n : Nat) : List Char → Option Nat
  | [] => some n
  | c :: rest =>
    match digit? base c with
    | some d => readFrom? base (n * base + d) rest
    | none => none

/-- The number that the digits of a text write; there has to be one. -/
def read? (base : Nat) : List Char → Option Nat
  | [] => none
  | cs => readFrom? base 0 cs

/-- A number in hexadecimal digits, with zeros in front to fill up `width`. -/
def hexadecimal (width n : Nat) : List Char :=
  let digits := Nat.toDigits 16 n
  List.replicate (width - digits.length) '0' ++ digits

end Numeral
end LaunchPlan
