import LaunchPlan.Yaml.Token.Basic
import LaunchPlan.Yaml.Token.Block
import LaunchPlan.Yaml.Token.Plain
import LaunchPlan.Yaml.Token.Property
import LaunchPlan.Yaml.Token.Quoted

/-! # From text to tokens

Whether a scalar is a mapping key shows only at the colon after it.  The scanner therefore
remembers, for every bracket that is open, where a key may have started; at the colon it puts
the token before the key into the tokens read so far.  A key has to be on one line and may
not be longer than 1024 characters.

Outside brackets, indentation opens and closes collections: an item or a key further to the
right opens one, a token further to the left closes those that are indented more.

`tokens?` gives the tokens of a text, or none for a text that is not well formed.
-/
namespace LaunchPlan
namespace Yaml

/-- Where a mapping key may have started. -/
structure PossibleKey where
  /-- Whether there has to be a key. -/
  isRequired : Bool
  /-- The number of tokens before it. -/
  tokenNumber : Nat
  /-- The number of characters before it. -/
  index : Nat
  /-- Its line. -/
  line : Nat
  /-- Its column. -/
  column : Nat

/-- The state of reading a text. -/
structure Scanner where
  /-- The position. -/
  cursor : Cursor
  /-- The tokens read so far, the last one first. -/
  tokens : List Token
  /-- The number of tokens read so far. -/
  count : Nat
  /-- For the innermost open bracket: where a key may have started. -/
  key : Option PossibleKey
  /-- The same for the brackets around it and for the text outside of all brackets; there is
  one entry for each open bracket. -/
  outerKeys : List (Option PossibleKey)
  /-- The indentation of the innermost collection; -1 outside of all. -/
  indent : Int
  /-- The indentation of the collections around it. -/
  outerIndents : List Int
  /-- Whether a key may start at the next token. -/
  allowsKey : Bool

namespace Scanner

/-- The start of a text. -/
def start (cs : List Char) : Scanner := ⟨.start cs, [], 0, none, [], -1, [], true⟩

/-- Whether a bracket is open. -/
def inFlow (s : Scanner) : Bool := !s.outerKeys.isEmpty

/-- Adds a token. -/
def push (s : Scanner) (t : Token) : Scanner :=
  { s with tokens := t :: s.tokens, count := s.count + 1 }

/-- Puts a token behind the first `number` tokens. -/
def insert (s : Scanner) (number : Nat) (t : Token) : Scanner :=
  let after := s.count - number
  { s with tokens := s.tokens.take after ++ t :: s.tokens.drop after, count := s.count + 1 }

/-- Moves to a position. -/
def moveTo (s : Scanner) (c : Cursor) : Scanner := { s with cursor := c }

/-- Moves behind so many characters. -/
def skip (s : Scanner) (n : Nat) : Scanner := s.moveTo (s.cursor.skip n)

/-- Opens a collection at a column, if the column is further to the right; its token goes
behind the first `number` tokens. -/
def openCollection (s : Scanner) (column number : Nat) (t : Token) : Scanner :=
  if s.inFlow ∨ (column : Int) ≤ s.indent then s
  else { s with indent := column, outerIndents := s.indent :: s.outerIndents }.insert number t

/-- The collections that a column closes: how many there are, the indentation left and those
around it. -/
def closedBy (column : Int) (indent : Int) : List Int → Nat × Int × List Int
  | [] => (0, indent, [])
  | outer :: rest =>
    if column < indent then
      let (n, indent, outers) := closedBy column outer rest
      (n + 1, indent, outers)
    else (0, indent, outer :: rest)

/-- Closes the collections that are indented more than a column. -/
def closeCollections (s : Scanner) (column : Int) : Scanner :=
  if s.inFlow then s
  else
    let (n, indent, outers) := closedBy column s.indent s.outerIndents
    n.repeat (·.push .blockEnd) { s with indent := indent, outerIndents := outers }

/-- Forgets where a key may have started; if there had to be a key, it is an error. -/
def dropKey? (s : Scanner) : Option Scanner :=
  if s.key.any (·.isRequired) then none else some { s with key := none }

/-- Remembers that a key may start here. -/
def markKey? (s : Scanner) : Option Scanner :=
  if s.allowsKey then do
    let s ← s.dropKey?
    let c := s.cursor
    some { s with
      key := some ⟨!s.inFlow && s.indent == (c.column : Int), s.count, c.index, c.line, c.column⟩ }
  else some s

/-- Forgets a key that is on an earlier line or too long; one that is required is an error. -/
def refreshKey? (c : Cursor) : Option PossibleKey → Option (Option PossibleKey)
  | none => some none
  | some k =>
    if k.line < c.line ∨ k.index + 1024 < c.index then
      if k.isRequired then none else some none
    else some (some k)

/-- Forgets all keys that are on an earlier line or too long. -/
def refreshKeys? (s : Scanner) : Option Scanner := do
  let key ← refreshKey? s.cursor s.key
  let outerKeys ← s.outerKeys.mapM (refreshKey? s.cursor)
  some { s with key := key, outerKeys := outerKeys }

/-- Skips white space and comments.  Outside brackets a tab is white space only where no key
may start, and a key may start on every new line. -/
def skipSpace (s : Scanner) : Scanner :=
  match _h : s.cursor.rest with
  | [] => s
  | ch :: _ =>
    if isBreak ch then
      skipSpace { s with cursor := s.cursor.advance, allowsKey := s.allowsKey || !s.inFlow }
    else if ch = ' ' ∨ (ch = '\t' ∧ (s.inFlow ∨ ¬ s.allowsKey)) ∨
        (ch = '\uFEFF' ∧ s.cursor.index = 0) then
      skipSpace { s with cursor := s.cursor.advance }
    else if ch = '#' then
      skipSpace { s with cursor := s.cursor.advance.skipWhile fun d => !isBreak d }
    else s
  termination_by s.cursor.rest.length
  decreasing_by
    · exact Cursor.length_advance _h
    · exact Cursor.length_advance _h
    · exact Nat.lt_of_le_of_lt (Cursor.length_skipWhile _ _) (Cursor.length_advance _h)

/-- Reads the end of the text. -/
def fetchEnd? (s : Scanner) : Option Scanner := do
  let s ← (s.closeCollections (-1)).dropKey?
  some (s.push .streamEnd)

/-- Reads a directive. -/
def fetchDirective? (s : Scanner) : Option Scanner := do
  let s ← (s.closeCollections (-1)).dropKey?
  let (t, c) ← directive? s.cursor
  some ({ s with allowsKey := false }.push t |>.moveTo c)

/-- Reads a mark of documents. -/
def fetchDocumentMark? (s : Scanner) (t : Token) : Option Scanner := do
  let s ← (s.closeCollections (-1)).dropKey?
  some ({ s with allowsKey := false }.push t |>.skip 3)

/-- Reads an opening bracket. -/
def fetchOpening? (s : Scanner) (t : Token) : Option Scanner := do
  let s ← s.markKey?
  some ({ s with key := none, outerKeys := s.key :: s.outerKeys, allowsKey := true }.push t
    |>.skip 1)

/-- Reads a closing bracket. -/
def fetchClosing? (s : Scanner) (t : Token) : Option Scanner := do
  let s ← s.dropKey?
  let s := match s.outerKeys with
    | k :: rest => { s with key := k, outerKeys := rest }
    | [] => s
  some ({ s with allowsKey := false }.push t |>.skip 1)

/-- Reads a comma. -/
def fetchFlowEntry? (s : Scanner) : Option Scanner := do
  let s ← s.dropKey?
  some ({ s with allowsKey := true }.push .flowEntry |>.skip 1)

/-- Reads the hyphen before an item. -/
def fetchBlockEntry? (s : Scanner) : Option Scanner := do
  let s ←
    if s.inFlow then some s
    else if s.allowsKey then
      some (s.openCollection s.cursor.column s.count .blockSequenceStart)
    else none
  let s ← s.dropKey?
  some ({ s with allowsKey := true }.push .blockEntry |>.skip 1)

/-- Reads the question mark before a key. -/
def fetchKey? (s : Scanner) : Option Scanner := do
  let s ←
    if s.inFlow then some s
    else if s.allowsKey then
      some (s.openCollection s.cursor.column s.count .blockMappingStart)
    else none
  let s ← s.dropKey?
  some ({ s with allowsKey := !s.inFlow }.push .key |>.skip 1)

/-- Reads the colon before a value.  If a key may have started, it did. -/
def fetchValue? (s : Scanner) : Option Scanner := do
  let s ←
    match s.key with
    | some k =>
      let s := s.insert k.tokenNumber .key
      let s := s.openCollection k.column k.tokenNumber .blockMappingStart
      some { s with key := none, allowsKey := false }
    | none =>
      if s.inFlow then some { s with allowsKey := false }
      else if s.allowsKey then
        some (s.openCollection s.cursor.column s.count .blockMappingStart)
      else none
  some (s.push .value |>.skip 1)

/-- Reads a token that can start a key. -/
def fetchKeyLike? (s : Scanner) (read? : Cursor → Option (Token × Cursor)) : Option Scanner := do
  let s ← s.markKey?
  let (t, c) ← read? s.cursor
  some ({ s with allowsKey := false }.push t |>.moveTo c)

/-- Reads a block scalar. -/
def fetchBlockScalar? (s : Scanner) (isLiteral : Bool) : Option Scanner := do
  let s ← s.dropKey?
  let (text, c) ← blockScalar? isLiteral s.indent s.cursor
  some ({ s with allowsKey := true }.push (.scalar text false) |>.moveTo c)

/-- Reads a plain scalar. -/
def fetchPlain? (s : Scanner) : Option Scanner := do
  let s ← s.markKey?
  let scalar ← plain? s.inFlow (s.indent + 1).toNat s.cursor
  some ({ s with allowsKey := scalar.isBroken }.push (.scalar scalar.text true)
    |>.moveTo scalar.next)

/-- Whether a plain scalar can start here: the marks of other tokens cannot start one, but a
hyphen can if no blank follows, and outside brackets so can a question mark and a colon. -/
def startsPlain (inFlow : Bool) : List Char → Bool
  | [] => false
  | c :: rest =>
    if isBlank c || isBreak c then false
    else if c = '-' then !rest.head?.any isBlank
    else if c = '?' ∨ c = ':' then !inFlow && !startsBlank rest
    else !(",[]\x7b\x7d#&*!|>'\"%@".toList.contains c || c.toNat == 96)

/-- Reads the next token, behind white space. -/
def fetchHere? (s : Scanner) : Option Scanner :=
  match s.cursor.rest with
  | [] => s.fetchEnd?
  | ch :: rest =>
    if ch = '%' ∧ s.cursor.column = 0 then s.fetchDirective?
    else if s.cursor.isAtDocumentMark then
      s.fetchDocumentMark? (if ch = '-' then .documentStart else .documentEnd)
    else if ch = '[' then s.fetchOpening? .flowSequenceStart
    else if ch = '\x7b' then s.fetchOpening? .flowMappingStart
    else if ch = ']' then s.fetchClosing? .flowSequenceEnd
    else if ch = '\x7d' then s.fetchClosing? .flowMappingEnd
    else if ch = ',' then s.fetchFlowEntry?
    else if ch = '-' ∧ startsBlank rest then s.fetchBlockEntry?
    else if ch = '?' ∧ (s.inFlow ∨ startsBlank rest) then s.fetchKey?
    else if ch = ':' ∧ (s.inFlow ∨ startsBlank rest) then s.fetchValue?
    else if ch = '*' then
      s.fetchKeyLike? fun c => (anchorName? c).map fun r => (.alias r.1, r.2)
    else if ch = '&' then
      s.fetchKeyLike? fun c => (anchorName? c).map fun r => (.anchor r.1, r.2)
    else if ch = '!' then s.fetchKeyLike? (tag? s.inFlow)
    else if ch = '|' ∧ ¬ s.inFlow then s.fetchBlockScalar? true
    else if ch = '>' ∧ ¬ s.inFlow then s.fetchBlockScalar? false
    else if ch = '\'' ∨ ch = '"' then
      s.fetchKeyLike? fun c => (quoted? ch c).map fun r => (.scalar r.1 false, r.2)
    else if startsPlain s.inFlow (ch :: rest) then s.fetchPlain?
    else none

/-- Reads the next token. -/
def fetch? (s : Scanner) : Option Scanner := do
  let s ← s.skipSpace.refreshKeys?
  (s.closeCollections s.cursor.column).fetchHere?

/-- Reads the tokens up to the end of a text of `size` characters. -/
def finish? (size : Nat) (s : Scanner) : Option (List Token) :=
  match s.fetch? with
  | none => none
  | some next =>
    if next.tokens.head? = some .streamEnd then some next.tokens.reverse
    else if s.cursor.index < next.cursor.index ∧ next.cursor.index ≤ size then finish? size next
    else none
  termination_by size - s.cursor.index

end Scanner

/-- The tokens of a text. -/
def tokens? (source : String) : Option (List Token) :=
  let cs := unifyLineEnds source.toList
  if source.toList.all isAllowed then (Scanner.start cs).finish? cs.length else none

end Yaml
end LaunchPlan
