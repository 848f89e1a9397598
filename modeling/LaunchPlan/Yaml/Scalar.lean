import LaunchPlan.Yaml.Value

/-! # What a scalar means

A text without quotes may be the null value, a truth value or a number; with quotes it is
always a text.  A tag for one of these types demands it, any other full tag makes a text of
the scalar.
-/
namespace LaunchPlan
namespace Yaml

/-- Whether a text is a word for the null value. -/
def isNullWord (cs : List Char) : Bool :=
  ["null".toList, "Null".toList, "NULL".toList, "~".toList].contains cs

/-- The truth value that a word stands for. -/
def truth? (cs : List Char) : Option Bool :=
  if ["true".toList, "True".toList, "TRUE".toList].contains cs then some true
  else if ["false".toList, "False".toList, "FALSE".toList].contains cs then some false
  else none

/-- The value of a text that is not a whole number. -/
def ofNonInteger (cs : List Char) : Value :=
  match if hasLeadingZero cs then none else real? cs with
  | some x => .number x
  | none => .string (String.ofList cs)

/-- The value of a text without quotes.  A large whole number that a document may not hold is
an error; beyond those the text is a double like any other. -/
def plainValue? (cs : List Char) : Option Value :=
  if cs = [] ∨ isNullWord cs then some .null
  else
    match truth? cs with
    | some b => some (.boolean b)
    | none =>
      match integer? cs with
      | some i =>
        if isSupported i then some (.number (.integer i))
        else if isLarge i then none
        else some (ofNonInteger cs)
      | none => some (ofNonInteger cs)

/-- The value of a text, which may be without quotes. -/
def textValue? (isPlain : Bool) (cs : List Char) : Option Value :=
  if isPlain then plainValue? cs else some (.string (String.ofList cs))

/-- The value of a text with a full tag. -/
def typedValue? (tag : List Char) (cs : List Char) : Option Value :=
  if tag = "tag:yaml.org,2002:bool".toList then (truth? cs).map .boolean
  else if tag = "tag:yaml.org,2002:int".toList then
    match integer? cs with
    | some i => if isSupported i then some (.number (.integer i)) else none
    | none => none
  else if tag = "tag:yaml.org,2002:float".toList then (real? cs).map .number
  else if tag = "tag:yaml.org,2002:null".toList then
    if isNullWord cs then some .null else none
  else some (.string (String.ofList cs))

end Yaml
end LaunchPlan
