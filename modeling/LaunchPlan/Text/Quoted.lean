import LaunchPlan.Text.Numeral
import LaunchPlan.Text.Printable

/-! # Quoted text

A text between double quotes, with a backslash before quotes and backslashes, short
escapes for the common controls, and the code point of every other character that does
not print as itself.
-/
namespace LaunchPlan
namespace Text

/-- A character inside quotes. -/
def quoteChar (c : Char) : String :=
  match c with
  | '\x00' => "\\0"
  | '\t' => "\\t"
  | '\r' => "\\r"
  | '\n' => "\\n"
  | '\\' => "\\\\"
  | '"' => "\\\""
  | c =>
    if isPrintable c then String.singleton c
    else "\\u\x7b" ++ String.ofList (Numeral.hexadecimal 1 c.toNat) ++ "\x7d"

/-- A text in quotes. -/
def quote (s : String) : String := "\"" ++ String.join (s.toList.map quoteChar) ++ "\""

end Text
end LaunchPlan
