import LaunchPlan.Yaml.Cursor
import LaunchPlan.Yaml.Scalar

/-! # How a text is written

A text is written without marks where that is possible, between single quotes where it would
be read as something else, between double quotes where characters have to be escaped, and as
a block of lines if it has line feeds.
-/
namespace LaunchPlan
namespace Yaml

/-- The ways to write a text. -/
inductive Style where
  /-- As it is. -/
  | plain
  /-- Between single quotes. -/
  | singleQuoted
  /-- Between double quotes. -/
  | doubleQuoted
  /-- As a block of lines. -/
  | literal
  deriving DecidableEq

/-- Whether a character can be written as it is. -/
def isWritable (c : Char) : Bool :=
  let n := c.toNat
  n == 10 || (32 ≤ n && n ≤ 126) || (0xA0 ≤ n && n ≤ 0xFFFD && n != 0xFEFF) || 0x10000 ≤ n

/-- Whether a text is at its end or starts with a space or a line end. -/
def startsGap : List Char → Bool
  | [] => true
  | c :: _ => c == ' ' || isBreak c

/-- Whether two characters that `p` and `q` accept stand side by side. -/
def hasPair (p q : Char → Bool) : List Char → Bool
  | a :: b :: rest => (p a && q b) || hasPair p q (b :: rest)
  | _ => false

/-- Whether a text starts with the mark of another kind of node or with a mark of documents. -/
def startsLikeMark : List Char → Bool
  | '-' :: '-' :: '-' :: _ => true
  | '.' :: '.' :: '.' :: _ => true
  | c :: rest =>
    "#,[]\x7b\x7d&*!|>'\"%@".toList.contains c || c.toNat == 96 ||
      ((c == '?' || c == ':' || c == '-') && startsGap rest)
  | [] => false

/-- Whether a colon before a gap or a hash sign behind one stands in a text. -/
def hasInnerMark : List Char → Bool
  | a :: b :: rest =>
    (b == ':' && startsGap rest) || (b == '#' && startsGap [a]) || hasInnerMark (b :: rest)
  | _ => false

/-- Whether a character is a space. -/
def isSpace (c : Char) : Bool := c == ' '

/-- Whether the characters of a text can be written as they are, and no line ends in a
space. -/
def isClean (cs : List Char) : Bool := cs.all isWritable && !hasPair isSpace isBreak cs

/-- Whether a text can be written without marks. -/
def allowsPlain (cs : List Char) : Bool :=
  cs != [] && isClean cs && !cs.any isBreak && !cs.head?.any isSpace &&
    !cs.getLast?.any isSpace && !startsLikeMark cs && !hasInnerMark cs

/-- Whether a text can be written between single quotes. -/
def allowsSingleQuoted (cs : List Char) : Bool := isClean cs && !hasPair isBreak isSpace cs

/-- Whether a text can be written as a block of lines. -/
def allowsLiteral (cs : List Char) : Bool := isClean cs && !cs.getLast?.any isSpace

/-- Whether a text without marks is read as this text. -/
def readsAsText (cs : List Char) : Bool :=
  match plainValue? cs with
  | some (.string _) => !hasLeadingZero cs
  | _ => false

/-- The way in which a text is written. -/
def style (cs : List Char) : Style :=
  if cs.contains '\n' then if allowsLiteral cs then .literal else .doubleQuoted
  else if readsAsText cs && allowsPlain cs then .plain
  else if allowsSingleQuoted cs then .singleQuoted
  else .doubleQuoted

/-- The inside of single quotes: quotes are doubled, and behind a line end the text is
indented; `isBroken` says that a line end precedes. -/
def singleQuotedBody (indent : Nat) (isBroken : Bool) : List Char → List Char
  | [] => if isBroken then List.replicate indent ' ' else []
  | c :: rest =>
    if isBreak c then c :: singleQuotedBody indent true rest
    else
      (if isBroken then List.replicate indent ' ' else []) ++
        (if c = '\'' then ['\'', '\''] else [c]) ++ singleQuotedBody indent false rest

/-- A number in hexadecimal digits, with capitals for ten to fifteen. -/
def capitalHexadecimal (width n : Nat) : List Char :=
  (Numeral.hexadecimal width n).map Char.toUpper

/-- The letter that stands for a character behind a backslash. -/
def escapeLetter? (c : Char) : Option Char :=
  [(0, '0'), (7, 'a'), (8, 'b'), (9, 't'), (10, 'n'), (11, 'v'), (12, 'f'), (13, 'r'), (27, 'e'),
    (34, '"'), (92, '\\'), (0x85, 'N'), (0xA0, '_'), (0x2028, 'L'), (0x2029, 'P')].lookup c.toNat

/-- The written form of a character between double quotes. -/
def doubleQuotedChar (c : Char) : List Char :=
  if isWritable c ∧ ¬ isBreak c ∧ c ≠ '"' ∧ c ≠ '\\' then [c]
  else
    match escapeLetter? c with
    | some letter => ['\\', letter]
    | none =>
      if c.toNat ≤ 0xFF then '\\' :: 'x' :: capitalHexadecimal 2 c.toNat
      else if c.toNat ≤ 0xFFFF then '\\' :: 'u' :: capitalHexadecimal 4 c.toNat
      else '\\' :: 'U' :: capitalHexadecimal 8 c.toNat

/-- What stands behind the mark of a block: a digit if the first line starts with a gap, and a
sign for the line ends at the end. -/
def literalHeader (cs : List Char) : List Char :=
  let hint := if startsGap cs then ['2'] else []
  let sign :=
    match cs.reverse with
    | [] => ['-']
    | [last] => if isBreak last then ['+'] else ['-']
    | last :: previous :: _ =>
      if isBreak last then if isBreak previous then ['+'] else [] else ['-']
  hint ++ sign

/-- The lines of a block; `isBroken` says that a line starts here. -/
def literalBody (indent : Nat) (isBroken : Bool) : List Char → List Char
  | [] => []
  | c :: rest =>
    if isBreak c then c :: literalBody indent true rest
    else
      (if isBroken then List.replicate indent ' ' else []) ++ c :: literalBody indent false rest

/-- A text in its way of writing; further lines are indented.  The answer ends where the next
line can start. -/
def writeText (indent : Nat) (cs : List Char) : List Char :=
  match style cs with
  | .plain => cs ++ ['\n']
  | .singleQuoted => '\'' :: singleQuotedBody indent false cs ++ ['\'', '\n']
  | .doubleQuoted => '"' :: cs.flatMap doubleQuotedChar ++ ['"', '\n']
  | .literal =>
    '|' :: literalHeader cs ++ '\n' :: literalBody indent true cs ++
      (if cs.getLast?.any isBreak then [] else ['\n'])

/-- Whether a text can be the key of a mapping on the line of its value: it has no line end
and takes up at most 128 octets. -/
def isSimpleKey (cs : List Char) : Bool :=
  !cs.any isBreak && (String.ofList cs).utf8ByteSize ≤ 128

end Yaml
end LaunchPlan
