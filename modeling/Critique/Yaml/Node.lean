import Critique.Yaml.Scanner

/-!
# YAML documents

The tree of a YAML document.  `Node` is a scalar, a sequence, a mapping, or an alias that refers to
another node by a number; `Document` is a tree with the nodes that aliases can refer to.

`Document.parse?` reads a text as one document.  It fails when the text is no YAML, when it has more
than one document, and when an alias has a name that no anchor before it has.

An anchor gets as its number the count of different anchor names before it.  An alias takes the
number that its name has where it stands, and refers to the last node with that number.
-/

namespace Critique.Yaml

/-- A node of a document. -/
inductive Node where
  | scalar (text : String) (style : Style) (tag : Option String)
  | seq (items : List Node)
  | map (pairs : List (Node × Node))
  | alias (id : Nat)
  deriving Inhabited

/-- A node that an anchor names: its number, its place in the order of anchors, and the node. -/
structure Anchored where
  id : Nat
  order : Nat
  node : Node

/-- A document: its root, if it has one, and the nodes that aliases can refer to. -/
structure Document where
  root : Option Node
  anchored : List Anchored := []

/-- The node that an alias refers to; any other node is itself. -/
def Document.resolve? (d : Document) : Node → Option Node
  | .alias id =>
    let named := d.anchored.filter (·.id == id)
    (named.find? fun a => named.all (·.order ≤ a.order)).map (·.node)
  | node => some node

/-- The scalar that stands where nothing is written. -/
def Node.missing : Node := .scalar "" .plain none

/-! ## Parsing -/

/-- The state of the parser. -/
structure Parser where
  tokens : List Token
  /-- What the handles of tags stand for. -/
  handles : List (String × String) := []
  /-- The anchor names so far, with their numbers. -/
  names : List (String × Nat) := []
  /-- How many anchors there were so far. -/
  order : Nat := 0
  anchored : List Anchored := []
  deriving Inhabited

namespace Parser

/-- Move over a token. -/
def skip (p : Parser) : Parser :=
  { p with tokens := p.tokens.drop 1 }

/-- Is this the next token? -/
def sees (p : Parser) (t : Token) : Bool :=
  p.tokens.head? == some t

/-- Is one of these the next token? -/
def seesOne (p : Parser) (ts : List Token) : Bool :=
  ts.any p.sees

/-- What is written in front of a node: an anchor and a tag, in any order. -/
structure Properties where
  anchor : Option String := none
  tag : Option String := none

/-- The whole tag of a handle and a suffix. -/
def fullTag? (p : Parser) (handle suffix : String) : Option String :=
  if handle.isEmpty then some suffix else (p.handles.lookup handle).map (· ++ suffix)

/-- An anchor in front of a node. -/
def anchor (p : Parser) : Parser × Option String :=
  match p.tokens with
  | .anchor name :: _ => (p.skip, some name)
  | _ => (p, none)

/-- A tag in front of a node. -/
def tag? (p : Parser) : Option (Parser × Option String) :=
  match p.tokens with
  | .tag handle suffix :: _ => (p.fullTag? handle suffix).map fun tag => (p.skip, some tag)
  | _ => some (p, none)

/-- The anchor and the tag in front of a node. -/
def properties? (p : Parser) : Option (Parser × Properties) := do
  match p.anchor with
  | (p, some anchor) =>
    let (p, tag) ← p.tag?
    return (p, ⟨some anchor, tag⟩)
  | (p, none) =>
    let (p, tag) ← p.tag?
    let (p, anchor) := if tag.isSome then p.anchor else (p, none)
    return (p, ⟨anchor, tag⟩)

/-- Give an anchor its number.  The result has also what to do with the finished node. -/
def register (p : Parser) (name : Option String) : Parser × (Parser → Node → Parser) :=
  match name with
  | none => (p, fun p _ => p)
  | some name =>
    let id := p.names.length
    let order := p.order
    let names := (name, id) :: p.names.filter (·.1 != name)
    ({ p with names, order := order + 1 },
      fun p node => { p with anchored := ⟨id, order, node⟩ :: p.anchored })

mutual

/-- A node.  Outside of flow collections it may be a block collection, and where `indentless` holds
also a sequence whose dashes are not indented. -/
def node? (block indentless : Bool) : (fuel : Nat) → Parser → Option (Parser × Node)
  | 0, _ => none
  | fuel + 1, p =>
    match p.tokens with
    | .alias name :: _ => (p.names.lookup name).map fun id => (p.skip, .alias id)
    | _ => do
      let (p, props) ← p.properties?
      let (p, finish) := p.register props.anchor
      let (p, node) ←
        match p.tokens with
        | .blockEntry :: _ =>
          if indentless then
            (indentlessItems? fuel p).map fun (p, items) => (p, .seq items)
          else if props.anchor.isSome || props.tag.isSome then
            some (p, .scalar "" .plain props.tag)
          else none
        | .scalar text style :: _ =>
          some (p.skip, .scalar text style props.tag)
        | .flowSequenceStart :: _ =>
          (flowItems? true fuel p.skip).map fun (p, items) => (p, .seq items)
        | .flowMappingStart :: _ =>
          (flowPairs? true fuel p.skip).map fun (p, pairs) => (p, .map pairs)
        | t :: _ =>
          if block && t == .blockSequenceStart then
            (blockItems? fuel p.skip).map fun (p, items) => (p, .seq items)
          else if block && t == .blockMappingStart then
            (blockPairs? fuel p.skip).map fun (p, pairs) => (p, .map pairs)
          else if props.anchor.isSome || props.tag.isSome then
            some (p, .scalar "" .plain props.tag)
          else none
        | [] => none
      return (finish p node, node)

/-- A node, unless one of the given tokens comes next; then nothing is written there. -/
def nodeUnless? (stops : List Token) (block indentless : Bool) :
    (fuel : Nat) → Parser → Option (Parser × Node)
  | 0, _ => none
  | fuel + 1, p =>
    if p.seesOne stops then some (p, .missing) else node? block indentless fuel p

/-- The items of a block sequence, up to its end. -/
def blockItems? : (fuel : Nat) → Parser → Option (Parser × List Node)
  | 0, _ => none
  | fuel + 1, p =>
    if p.sees .blockEntry then do
      let (p, item) ← nodeUnless? [.blockEntry, .blockEnd] true false fuel p.skip
      let (p, items) ← blockItems? fuel p
      return (p, item :: items)
    else if p.sees .blockEnd then some (p.skip, [])
    else none

/-- The items of a sequence that is not indented. -/
def indentlessItems? : (fuel : Nat) → Parser → Option (Parser × List Node)
  | 0, _ => none
  | fuel + 1, p =>
    if p.sees .blockEntry then do
      let (p, item) ← nodeUnless? [.blockEntry, .key, .value, .blockEnd] true false fuel p.skip
      let (p, items) ← indentlessItems? fuel p
      return (p, item :: items)
    else some (p, [])

/-- The pairs of a block mapping, up to its end. -/
def blockPairs? : (fuel : Nat) → Parser → Option (Parser × List (Node × Node))
  | 0, _ => none
  | fuel + 1, p =>
    if p.sees .key then do
      let (p, key) ← nodeUnless? [.key, .value, .blockEnd] true true fuel p.skip
      let (p, value) ←
        if p.sees .value then nodeUnless? [.key, .value, .blockEnd] true true fuel p.skip
        else some (p, .missing)
      let (p, pairs) ← blockPairs? fuel p
      return (p, (key, value) :: pairs)
    else if p.sees .blockEnd then some (p.skip, [])
    else none

/-- The items of a flow sequence, up to its end.  All but the first stand behind a comma, and a pair
stands for a mapping with one entry. -/
def flowItems? (first : Bool) : (fuel : Nat) → Parser → Option (Parser × List Node)
  | 0, _ => none
  | fuel + 1, p =>
    if p.sees .flowSequenceEnd then some (p.skip, [])
    else if !first && !p.sees .flowEntry then none
    else
      let p := if first then p else p.skip
      if p.sees .flowSequenceEnd then some (p.skip, [])
      else do
        let (p, item) ←
          if p.sees .key then
            (flowPair? fuel p.skip).map fun (p, pair) => (p, .map [pair])
          else node? false false fuel p
        let (p, items) ← flowItems? false fuel p
        return (p, item :: items)

/-- A pair in a flow sequence, behind the sign of its key. -/
def flowPair? : (fuel : Nat) → Parser → Option (Parser × (Node × Node))
  | 0, _ => none
  | fuel + 1, p => do
    let (p, key) ←
      if p.seesOne [.value, .flowEntry, .flowSequenceEnd] then some (p.skip, .missing)
      else node? false false fuel p
    let (p, value) ←
      if p.sees .value then
        nodeUnless? [.flowEntry, .flowSequenceEnd] false false fuel p.skip
      else some (p, .missing)
    return (p, (key, value))

/-- The pairs of a flow mapping, up to its end.  All but the first stand behind a comma. -/
def flowPairs? (first : Bool) : (fuel : Nat) → Parser → Option (Parser × List (Node × Node))
  | 0, _ => none
  | fuel + 1, p =>
    if p.sees .flowMappingEnd then some (p.skip, [])
    else if !first && !p.sees .flowEntry then none
    else
      let p := if first then p else p.skip
      if p.sees .flowMappingEnd then some (p.skip, [])
      else do
        let (p, pair) ←
          if p.sees .key then do
            let (p, key) ←
              nodeUnless? [.value, .flowEntry, .flowMappingEnd] false false fuel p.skip
            let (p, value) ←
              if p.sees .value then
                nodeUnless? [.flowEntry, .flowMappingEnd] false false fuel p.skip
              else some (p, .missing)
            some (p, (key, value))
          else do
            let (p, key) ← node? false false fuel p
            some (p, (key, .missing))
        let (p, pairs) ← flowPairs? false fuel p
        return (p, pair :: pairs)

end

/-- The handles that need no directive. -/
def standardHandles : List (String × String) :=
  [("!", "!"), ("!!", "tag:yaml.org,2002:")]

/-- The directives in front of a document.  A version may be given once and must be 1.1 or 1.2, and
a handle may be given once. -/
def directives? : (fuel : Nat) → (versioned : Bool) → (handles : List (String × String)) →
    List Token → Option (List Token × List (String × String))
  | 0, _, _, _ => none
  | fuel + 1, versioned, handles, ts =>
    match ts with
    | .versionDirective major minor :: ts =>
      if versioned || major != 1 || (minor != 1 && minor != 2) then none
      else directives? fuel true handles ts
    | .tagDirective handle target :: ts =>
      if (handles.lookup handle).isSome then none
      else directives? fuel versioned (handles ++ [(handle, target)]) ts
    | ts => some (ts, handles)

/-- Is the token a directive or the mark of a document's start? -/
def startsDocument : Token → Bool
  | .versionDirective .. => true
  | .tagDirective .. => true
  | .documentStart => true
  | _ => false

/-- A document behind its directives and its mark. -/
def content? (p : Parser) : Option (Parser × Node) :=
  match p.tokens with
  | [] => none
  | t :: _ =>
    if startsDocument t || t == .documentEnd || t == .streamEnd then some (p, .missing)
    else node? true false (4 * p.tokens.length + 4) p

/-- One document, or none. -/
def document? (ts : List Token) : Option Document :=
  match ts with
  | [] => none
  | .streamEnd :: _ => some { root := none }
  | t :: _ => do
    let (p, root) ←
      if startsDocument t then do
        let (ts, handles) ← directives? (ts.length + 1) false [] ts
        match ts with
        | .documentStart :: ts =>
          content? { tokens := ts, handles := handles ++ standardHandles }
        | _ => none
      else node? true false (4 * ts.length + 4) { tokens := ts, handles := standardHandles }
    if p.tokens.dropWhile (· == .documentEnd) == [.streamEnd] then
      return { root := some root, anchored := p.anchored }
    else none

end Parser

/-- The document that a text is, if it is one. -/
def Document.parse? (text : String) : Option Document :=
  (tokens? text).bind Parser.document?

end Critique.Yaml
