import LaunchPlan.Yaml.Token.Basic

/-! # The node tree of a YAML text

A document is a tree of nodes: scalars, lists, mappings and references to other nodes by
their anchors.  `document?` reads the tokens of a text; a text holds at most one document.
Tags are put together here: a handle stands for the start of a tag, by a directive or by
default.

The readers below take the tokens that are left and give back those behind what they read.
Their first argument bounds how deep they call each other; every two calls read a token, so
the bound that `document?` gives is never reached.
-/
namespace LaunchPlan
namespace Yaml

/-- What precedes a node: a name for it, and its tag. -/
structure Properties where
  /-- The anchor. -/
  anchor : Option (List Char)
  /-- The tag. -/
  tag : Option (List Char)

/-- A node of a document; `ref` is how it refers to other nodes. -/
inductive Node (ref : Type) where
  /-- A reference to the node of an anchor. -/
  | alias (target : ref)
  /-- A text; `isPlain` says that it is written without quotes and block marks. -/
  | scalar (properties : Properties) (text : List Char) (isPlain : Bool)
  /-- A list. -/
  | sequence (properties : Properties) (items : List (Node ref))
  /-- A mapping. -/
  | mapping (properties : Properties) (entries : List (Node ref × Node ref))

/-- A node as it is written: it refers to others by their names. -/
abbrev NamedNode := Node (List Char)

namespace NamedNode

/-- The node that stands where nothing is written. -/
def absent : NamedNode := .scalar ⟨none, none⟩ [] true

/-- What a handle stands for. -/
abbrev Handles := List (List Char × List Char)

/-- The handles that every document has. -/
def defaultHandles : Handles := [(['!'], ['!']), (['!', '!'], "tag:yaml.org,2002:".toList)]

/-- The tag of a handle and a suffix; an unknown handle is an error. -/
def resolveTag? (handles : Handles) (handle suffix : List Char) : Option (List Char) :=
  if handle = [] then some suffix else (handles.lookup handle).map (· ++ suffix)

/-- Reads the properties before a node, in either order. -/
def properties? (handles : Handles) : List Token → Option (Properties × List Token)
  | .anchor a :: .tag h s :: ts => do some (⟨some a, some (← resolveTag? handles h s)⟩, ts)
  | .tag h s :: .anchor a :: ts => do some (⟨some a, some (← resolveTag? handles h s)⟩, ts)
  | .anchor a :: ts => some (⟨some a, none⟩, ts)
  | .tag h s :: ts => do some (⟨none, some (← resolveTag? handles h s)⟩, ts)
  | ts => some (⟨none, none⟩, ts)

/-- Whether the next token cannot start a node of an indented mapping. -/
def endsBlockEntry : List Token → Bool
  | .key :: _ | .value :: _ | .blockEnd :: _ => true
  | _ => false

/-- Whether the next token cannot start an item of an indented list. -/
def endsBlockItem : List Token → Bool
  | .blockEntry :: _ | .blockEnd :: _ => true
  | _ => false

/-- Whether the next token cannot start a node of a mapping in braces. -/
def endsFlowEntry : List Token → Bool
  | .value :: _ | .flowEntry :: _ | .flowMappingEnd :: _ => true
  | _ => false

/-- Whether the next token cannot start a node of a pair in brackets. -/
def endsFlowPair : List Token → Bool
  | .value :: _ | .flowEntry :: _ | .flowSequenceEnd :: _ => true
  | _ => false

/-- The token that has to separate an item from the one before it in brackets. -/
def afterSeparator? (isFirst : Bool) : List Token → Option (List Token)
  | .flowEntry :: ts => if isFirst then some (.flowEntry :: ts) else some ts
  | ts => if isFirst then some ts else none

mutual

/-- Reads a node.  Indented collections are allowed if `inBlock`, a list that is not indented
more than the key before it if `isUnderKey`. -/
def read? (fuel : Nat) (handles : Handles) (inBlock isUnderKey : Bool) (ts : List Token) :
    Option (NamedNode × List Token) :=
  match fuel, ts with
  | 0, _ => none
  | _ + 1, .alias name :: ts => some (.alias name, ts)
  | fuel + 1, ts => do
    let (p, ts) ← properties? handles ts
    match ts with
    | .blockEntry :: _ =>
      if isUnderKey then
        let (items, ts) ← unindentedItems? fuel handles ts
        some (.sequence p items, ts)
      else if p.anchor.isSome ∨ p.tag.isSome then some (.scalar p [] true, ts)
      else none
    | .scalar text isPlain :: ts => some (.scalar p text isPlain, ts)
    | .flowSequenceStart :: ts =>
      let (items, ts) ← flowItems? fuel handles true ts
      some (.sequence p items, ts)
    | .flowMappingStart :: ts =>
      let (entries, ts) ← flowEntries? fuel handles true ts
      some (.mapping p entries, ts)
    | .blockSequenceStart :: rest =>
      if inBlock then
        let (items, ts) ← blockItems? fuel handles rest
        some (.sequence p items, ts)
      else if p.anchor.isSome ∨ p.tag.isSome then some (.scalar p [] true, ts)
      else none
    | .blockMappingStart :: rest =>
      if inBlock then
        let (entries, ts) ← blockEntries? fuel handles rest
        some (.mapping p entries, ts)
      else if p.anchor.isSome ∨ p.tag.isSome then some (.scalar p [] true, ts)
      else none
    | ts => if p.anchor.isSome ∨ p.tag.isSome then some (.scalar p [] true, ts) else none

/-- Reads a node of an indented mapping, which may be absent. -/
def blockNode? (fuel : Nat) (handles : Handles) (ts : List Token) :
    Option (NamedNode × List Token) :=
  match fuel with
  | 0 => none
  | fuel + 1 => if endsBlockEntry ts then some (absent, ts) else read? fuel handles true true ts

/-- Reads the items of an indented list, and its end. -/
def blockItems? (fuel : Nat) (handles : Handles) (ts : List Token) :
    Option (List NamedNode × List Token) :=
  match fuel, ts with
  | 0, _ => none
  | fuel + 1, .blockEntry :: ts => do
    let (item, ts) ←
      if endsBlockItem ts then some (absent, ts) else read? fuel handles true false ts
    let (items, ts) ← blockItems? fuel handles ts
    some (item :: items, ts)
  | _ + 1, .blockEnd :: ts => some ([], ts)
  | _ + 1, _ => none

/-- Reads the items of a list that is not indented more than the key before it. -/
def unindentedItems? (fuel : Nat) (handles : Handles) (ts : List Token) :
    Option (List NamedNode × List Token) :=
  match fuel, ts with
  | 0, _ => none
  | fuel + 1, .blockEntry :: ts => do
    let (item, ts) ←
      if endsBlockItem ts || endsBlockEntry ts then some (absent, ts)
      else read? fuel handles true false ts
    let (items, ts) ← unindentedItems? fuel handles ts
    some (item :: items, ts)
  | _ + 1, ts => some ([], ts)

/-- Reads the entries of an indented mapping, and its end. -/
def blockEntries? (fuel : Nat) (handles : Handles) (ts : List Token) :
    Option (List (NamedNode × NamedNode) × List Token) :=
  match fuel, ts with
  | 0, _ => none
  | fuel + 1, .key :: ts => do
    let (key, ts) ← blockNode? fuel handles ts
    let (value, ts) ← blockValue? fuel handles ts
    let (entries, ts) ← blockEntries? fuel handles ts
    some ((key, value) :: entries, ts)
  | _ + 1, .blockEnd :: ts => some ([], ts)
  | _ + 1, _ => none

/-- Reads the value of an entry of an indented mapping, which may be absent. -/
def blockValue? (fuel : Nat) (handles : Handles) (ts : List Token) :
    Option (NamedNode × List Token) :=
  match fuel, ts with
  | 0, _ => none
  | fuel + 1, .value :: ts => blockNode? fuel handles ts
  | _ + 1, ts => some (absent, ts)

/-- Reads the items of a list in brackets, and the closing bracket. -/
def flowItems? (fuel : Nat) (handles : Handles) (isFirst : Bool) (ts : List Token) :
    Option (List NamedNode × List Token) :=
  match fuel, ts with
  | 0, _ => none
  | _ + 1, .flowSequenceEnd :: ts => some ([], ts)
  | fuel + 1, ts => do
    match ← afterSeparator? isFirst ts with
    | .flowSequenceEnd :: ts => some ([], ts)
    | .key :: ts =>
      let (pair, ts) ← flowPair? fuel handles ts
      let (items, ts) ← flowItems? fuel handles false ts
      some (.mapping ⟨none, none⟩ [pair] :: items, ts)
    | ts =>
      let (item, ts) ← read? fuel handles false false ts
      let (items, ts) ← flowItems? fuel handles false ts
      some (item :: items, ts)

/-- Reads a pair that is an item of a list in brackets.  Where the key is absent, the token in
its place is passed over. -/
def flowPair? (fuel : Nat) (handles : Handles) (ts : List Token) :
    Option ((NamedNode × NamedNode) × List Token) :=
  match fuel with
  | 0 => none
  | fuel + 1 => do
    let (key, ts) ←
      if endsFlowPair ts then some (absent, ts.tail) else read? fuel handles false false ts
    match ts with
    | .value :: ts =>
      if endsFlowPair ts ∧ ts.head? ≠ some .value then some ((key, absent), ts)
      else
        let (value, ts) ← read? fuel handles false false ts
        some ((key, value), ts)
    | ts => some ((key, absent), ts)

/-- Reads the entries of a mapping in braces, and the closing brace. -/
def flowEntries? (fuel : Nat) (handles : Handles) (isFirst : Bool) (ts : List Token) :
    Option (List (NamedNode × NamedNode) × List Token) :=
  match fuel, ts with
  | 0, _ => none
  | _ + 1, .flowMappingEnd :: ts => some ([], ts)
  | fuel + 1, ts => do
    match ← afterSeparator? isFirst ts with
    | .flowMappingEnd :: ts => some ([], ts)
    | .key :: ts =>
      let (key, ts) ←
        if endsFlowEntry ts then some (absent, ts) else read? fuel handles false false ts
      let (value, ts) ← flowValue? fuel handles ts
      let (entries, ts) ← flowEntries? fuel handles false ts
      some ((key, value) :: entries, ts)
    | ts =>
      let (key, ts) ← read? fuel handles false false ts
      let (entries, ts) ← flowEntries? fuel handles false ts
      some ((key, absent) :: entries, ts)

/-- Reads the value of an entry of a mapping in braces, which may be absent. -/
def flowValue? (fuel : Nat) (handles : Handles) (ts : List Token) :
    Option (NamedNode × List Token) :=
  match fuel, ts with
  | 0, _ => none
  | fuel + 1, .value :: ts =>
    if endsFlowEntry ts ∧ ts.head? ≠ some .value then some (absent, ts)
    else read? fuel handles false false ts
  | _ + 1, ts => some (absent, ts)

end

/-- What the directives of a document say. -/
structure Directives where
  /-- Whether there was one for the version. -/
  hasVersion : Bool
  /-- The handles they define. -/
  handles : Handles

/-- Reads the directives of a document: the version is 1.1 or 1.2 and stated once, and no
handle is defined twice. -/
def directives? (d : Directives) : List Token → Option (Directives × List Token)
  | .version major minor :: ts =>
    if d.hasVersion ∨ major ≠ 1 ∨ (minor ≠ 1 ∧ minor ≠ 2) then none
    else directives? { d with hasVersion := true } ts
  | .tagHandle handle start :: ts =>
    if (d.handles.lookup handle).isSome then none
    else directives? { d with handles := d.handles ++ [(handle, start)] } ts
  | ts => some (d, ts)

/-- Whether a document starts or ends at the next token. -/
def endsDocument : List Token → Bool
  | .version .. :: _ | .tagHandle .. :: _ | .documentStart :: _ | .documentEnd :: _
  | .streamEnd :: _ => true
  | _ => false

/-- Skips the marks at the end of a document. -/
def skipDocumentEnds : List Token → List Token
  | .documentEnd :: ts => skipDocumentEnds ts
  | ts => ts

/-- A bound for reading these tokens. -/
def fuelFor (ts : List Token) : Nat := 4 * ts.length + 8

/-- Reads the root of a document behind its directives and start mark. -/
def root? (handles : Handles) (ts : List Token) : Option (NamedNode × List Token) :=
  if endsDocument ts then some (absent, ts)
  else read? (fuelFor ts) (handles ++ defaultHandles) true false ts

end NamedNode

/-- Reads a text that holds at most one document; the inner answer is none if it holds no
document. -/
def document? (ts : List Token) : Option (Option NamedNode) :=
  match ts with
  | [.streamEnd] => some none
  | ts => do
    let (root, ts) ←
      match ts with
      | .version .. :: _ | .tagHandle .. :: _ | .documentStart :: _ => do
        let (d, ts) ← NamedNode.directives? ⟨false, []⟩ ts
        match ts with
        | .documentStart :: ts => NamedNode.root? d.handles ts
        | _ => none
      | ts => NamedNode.read? (NamedNode.fuelFor ts) NamedNode.defaultHandles true false ts
    match NamedNode.skipDocumentEnds ts with
    | [.streamEnd] => some (some root)
    | _ => none

end Yaml
end LaunchPlan
