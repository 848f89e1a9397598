import LaunchPlan.Decimal.Shortest

/-! # Numbers of YAML

Which texts are numbers, and how a number is written.  Whole numbers are decimal without a
leading zero, or hexadecimal, octal or binary behind `0x`, `0o`, `0b`; other numbers are
finite decimals, or one of the words for the infinite and the undefined number.
-/
namespace LaunchPlan
namespace Yaml

/-- A number. -/
inductive Number where
  /-- A whole number. -/
  | integer (value : Int)
  /-- A finite double; zero has a sign, too. -/
  | finite (isNegative : Bool) (magnitude : Double)
  /-- An infinite number. -/
  | infinite (isNegative : Bool)
  /-- The undefined number. -/
  | undefined
  deriving DecidableEq

namespace Number

/-- The text of a number. -/
def text : Number → String
  | integer value => toString value
  | finite isNegative magnitude => (if isNegative then "-" else "") ++ magnitude.text
  | infinite isNegative => if isNegative then "-.inf" else ".inf"
  | undefined => ".nan"

/-- Whether two numbers count as one: the zeros do, a whole number and a double never do. -/
def isSame : Number → Number → Bool
  | finite s x, finite t y => x == y && (s == t || x.mantissa == 0)
  | a, b => a == b

end Number

/-- Whether a text, apart from its sign, is digits with a zero in front of them. -/
def hasLeadingZero (cs : List Char) : Bool :=
  match (Decimal.sign cs).2 with
  | '0' :: d :: rest => (d :: rest).all Char.isDigit
  | _ => false

/-- The whole number that a text without a sign writes. -/
def magnitude? (cs : List Char) : Option Nat :=
  match cs with
  | '0' :: 'x' :: digits => Numeral.read? 16 digits
  | '0' :: 'o' :: digits => Numeral.read? 8 digits
  | '0' :: 'b' :: digits => Numeral.read? 2 digits
  | digits => if hasLeadingZero digits then none else Numeral.read? 10 digits

/-- The whole number that a text writes, however large. -/
def integer? (cs : List Char) : Option Int :=
  let (isNegative, rest) := Decimal.sign cs
  (magnitude? rest).map fun (n : Nat) => if isNegative then -(n : Int) else n

/-- Whether a whole number is within what a document may hold. -/
def isSupported (i : Int) : Bool := -(Nat.pow 2 63 : Int) ≤ i && i < Nat.pow 2 64

/-- Whether a whole number has no more bits than a large integer, of which a document may not
hold all. -/
def isLarge (i : Int) : Bool := -(Nat.pow 2 127 : Int) ≤ i && i < Nat.pow 2 128

/-- The number that a text writes which is not a whole number. -/
def real? (cs : List Char) : Option Number :=
  let (isNegative, rest) := Decimal.sign cs
  if rest ∈ [".inf".toList, ".Inf".toList, ".INF".toList] then some (.infinite isNegative)
  else if cs ∈ [".nan".toList, ".NaN".toList, ".NAN".toList] then some .undefined
  else do some (.finite isNegative (← (← Decimal.parse? rest).toDouble?))

end Yaml
end LaunchPlan
