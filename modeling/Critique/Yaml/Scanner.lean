import Critique.Yaml.Scanner.Name

/-!
# Scanning YAML

`Yaml.tokens?` cuts a text into tokens.  Block collections have no brackets of their own: the
scanner adds them where the indentation grows and shrinks.

The key of a mapping is recognised only by the colon behind it.  So the scanner keeps, for each
level of flow collections, the last token that can still turn out to be a key, and puts the sign of
a key in front of it when the colon comes.  Such a candidate must stand on one line, the colon must
come within 1024 bytes, and at the indentation of a block mapping it is required.
-/

namespace Critique.Yaml

/-- A token that can still turn out to be a key. -/
structure Candidate where
  /-- Must it become a key? -/
  required : Bool
  /-- How many tokens stand before it. -/
  token : Nat
  /-- How many bytes stand before it. -/
  offset : Nat
  line : Nat
  column : Nat
  deriving Repr, Inhabited

/-- The state of the scanner. -/
structure Scanner where
  cursor : Cursor
  /-- The tokens so far. -/
  tokens : List Token := []
  /-- The indentation of the innermost block collection, and those of the ones around it. -/
  indent : Int := -1
  indents : List Int := []
  /-- May a key start here? -/
  keyAllowed : Bool := true
  /-- The candidate of the innermost flow level, and those of the levels around it. -/
  candidate : Option Candidate := none
  candidates : List (Option Candidate) := []
  deriving Inhabited

namespace Scanner

/-- Is the scanner inside a flow collection? -/
def inFlow (s : Scanner) : Bool :=
  !s.candidates.isEmpty

/-- The column of the cursor. -/
def column (s : Scanner) : Int :=
  s.cursor.column

/-- Add a token. -/
def push (s : Scanner) (t : Token) : Scanner :=
  { s with tokens := s.tokens ++ [t] }

/-- Put a token in front of the token with a given number. -/
def insertAt (s : Scanner) (n : Nat) (t : Token) : Scanner :=
  { s with tokens := s.tokens.take n ++ t :: s.tokens.drop n }

/-! ## White space, indentation and candidates -/

/-- Move over spaces, comments and ends of lines.  Tabs count as spaces where no key may start. -/
def skipSpace (s : Scanner) : (fuel : Nat) → Scanner
  | 0 => s
  | fuel + 1 =>
    let c := s.cursor
    let c := if c.column == 0 && c.sees '\uFEFF' then c.advance 1 else c
    let c := c.skipWhile fun x => x == ' ' || (x == '\t' && (s.inFlow || !s.keyAllowed))
    let c := if c.sees '#' then c.skipWhile (!isBreak ·) else c
    if c.seesAny isBreak then
      ({ s with cursor := c.skipLine, keyAllowed := s.keyAllowed || !s.inFlow }).skipSpace fuel
    else { s with cursor := c }

/-- Is the candidate too far behind to become a key? -/
def stale (c : Cursor) (k : Candidate) : Bool :=
  k.line < c.line || k.offset + 1024 < c.offset

/-- Give up a candidate that is too far behind; one that must become a key is an error. -/
def refresh? (c : Cursor) : Option Candidate → Option (Option Candidate)
  | none => some none
  | some k => if stale c k then (if k.required then none else some none) else some (some k)

/-- Give up all candidates that are too far behind. -/
def dropStale? (s : Scanner) : Option Scanner := do
  return { s with
    candidate := ← refresh? s.cursor s.candidate
    candidates := ← s.candidates.mapM (refresh? s.cursor) }

/-- Close the block collections that are indented more than a column. -/
def unroll (s : Scanner) (column : Int) : Scanner :=
  if s.inFlow then s else close s.tokens s.indent s.indents
where
  /-- Close collections one after another. -/
  close (tokens : List Token) (indent : Int) : List Int → Scanner
    | outer :: indents =>
      if column < indent then close (tokens ++ [.blockEnd]) outer indents
      else { s with tokens, indent, indents := outer :: indents }
    | [] => { s with tokens, indent, indents := [] }

/-- Open a block collection if the column is indented more than the innermost one. -/
def roll (s : Scanner) (column : Int) (t : Token) (at? : Option Nat) : Scanner :=
  if s.inFlow || column ≤ s.indent then s
  else
    let s := { s with indents := s.indent :: s.indents, indent := column }
    match at? with
    | some n => s.insertAt n t
    | none => s.push t

/-- Give up the candidate of this level. -/
def dropCandidate? (s : Scanner) : Option Scanner :=
  match s.candidate with
  | some k => if k.required then none else some { s with candidate := none }
  | none => some s

/-- Make the next token a candidate, if a key may start here. -/
def saveCandidate? (s : Scanner) : Option Scanner :=
  if s.keyAllowed then do
    let s ← s.dropCandidate?
    return { s with candidate := some {
      required := !s.inFlow && s.indent == s.column
      token := s.tokens.length
      offset := s.cursor.offset
      line := s.cursor.line
      column := s.cursor.column } }
  else some s

/-! ## Tokens -/

/-- Move over characters and add a token. -/
def take (s : Scanner) (n : Nat) (t : Token) : Scanner :=
  { s with cursor := s.cursor.advance n }.push t

/-- The end of the text. -/
def fetchStreamEnd? (s : Scanner) : Option Scanner := do
  let s ← (s.unroll (-1)).dropCandidate?
  return { s with keyAllowed := false }.push .streamEnd

/-- A directive. -/
def fetchDirective? (s : Scanner) : Option Scanner := do
  let s ← (s.unroll (-1)).dropCandidate?
  let (c, t) ← scanDirective s.cursor
  return { s with cursor := c, keyAllowed := false }.push t

/-- The mark of a document's start or end. -/
def fetchDocumentMark? (s : Scanner) (t : Token) : Option Scanner := do
  let s ← (s.unroll (-1)).dropCandidate?
  return { s with keyAllowed := false }.take 3 t

/-- The opening bracket of a flow collection. -/
def fetchFlowStart? (s : Scanner) (t : Token) : Option Scanner := do
  let s ← s.saveCandidate?
  return { s with candidates := s.candidate :: s.candidates, candidate := none,
                  keyAllowed := true }.take 1 t

/-- The closing bracket of a flow collection. -/
def fetchFlowEnd? (s : Scanner) (t : Token) : Option Scanner := do
  let s ← s.dropCandidate?
  let s :=
    match s.candidates with
    | k :: ks => { s with candidate := k, candidates := ks }
    | [] => s
  return { s with keyAllowed := false }.take 1 t

/-- The comma of a flow collection. -/
def fetchFlowEntry? (s : Scanner) : Option Scanner := do
  let s ← s.dropCandidate?
  return { s with keyAllowed := true }.take 1 .flowEntry

/-- The dash of a block sequence. -/
def fetchBlockEntry? (s : Scanner) : Option Scanner := do
  if !s.inFlow && !s.keyAllowed then none
  let s ← (s.roll s.column .blockSequenceStart none).dropCandidate?
  return { s with keyAllowed := true }.take 1 .blockEntry

/-- The question mark of a key. -/
def fetchKey? (s : Scanner) : Option Scanner := do
  if !s.inFlow && !s.keyAllowed then none
  let s ← (s.roll s.column .blockMappingStart none).dropCandidate?
  return { s with keyAllowed := !s.inFlow }.take 1 .key

/-- The colon of a value: the candidate, if there is one, becomes a key. -/
def fetchValue? (s : Scanner) : Option Scanner :=
  match s.candidate with
  | some k =>
    let s := (s.insertAt k.token .key).roll k.column .blockMappingStart (some k.token)
    some ({ s with candidate := none, keyAllowed := false }.take 1 .value)
  | none =>
    if !s.inFlow && !s.keyAllowed then none
    else
      let s := s.roll s.column .blockMappingStart none
      some ({ s with keyAllowed := !s.inFlow }.take 1 .value)

/-- An anchor or an alias. -/
def fetchName? (s : Scanner) (t : String → Token) : Option Scanner := do
  let s ← s.saveCandidate?
  let (c, name) ← scanName s.cursor
  return { s with cursor := c, keyAllowed := false }.push (t name)

/-- A tag. -/
def fetchTag? (s : Scanner) : Option Scanner := do
  let s ← s.saveCandidate?
  let (c, handle, suffix) ← scanTag s.inFlow s.cursor
  return { s with cursor := c, keyAllowed := false }.push (.tag handle suffix)

/-- A block scalar. -/
def fetchBlockScalar? (s : Scanner) (folded : Bool) : Option Scanner := do
  let s ← s.dropCandidate?
  let (c, text) ← scanBlock folded s.indent s.cursor
  return { s with cursor := c, keyAllowed := true }.push
    (.scalar (String.ofList text) (if folded then .folded else .literal))

/-- A quoted scalar. -/
def fetchQuoted? (s : Scanner) (single : Bool) : Option Scanner := do
  let s ← s.saveCandidate?
  let (c, text) ← scanQuoted single s.cursor
  return { s with cursor := c, keyAllowed := false }.push
    (.scalar (String.ofList text) (if single then .single else .double))

/-- A plain scalar. -/
def fetchPlain? (s : Scanner) : Option Scanner := do
  let s ← s.saveCandidate?
  let (c, text, broken) ← scanPlain s.inFlow (s.indent + 1) s.cursor
  return { s with cursor := c, keyAllowed := broken }.push (.scalar (String.ofList text) .plain)

/-- Is the character a sign that cannot start a plain scalar? -/
def isSign (c : Char) : Bool :=
  "-?:,[]\x7b\x7d#&*!|>'\"%@".toList.contains c || c.toNat == 0x60

/-- Can a plain scalar start here? -/
def plainAhead (flow : Bool) : List Char → Bool
  | [] => false
  | c :: rest =>
    (!isGap c && !isSign c) ||
      (c == '-' && !rest.head?.any isSpace) ||
      (!flow && (c == '?' || c == ':') && !gapAhead rest)

/-- Add the next token. -/
def fetch? (s : Scanner) : Option Scanner := do
  let s := s.skipSpace (s.cursor.rest.length + 1)
  let s ← s.dropStale?
  let s := s.unroll s.column
  let atStart := s.cursor.column == 0
  match s.cursor.rest with
  | [] => s.fetchStreamEnd?
  | c :: rest =>
    if atStart && c == '%' then s.fetchDirective?
    else if atStart && documentMarkAhead (c :: rest) then
      s.fetchDocumentMark? (if c == '-' then .documentStart else .documentEnd)
    else if c == '[' then s.fetchFlowStart? .flowSequenceStart
    else if c == '\x7b' then s.fetchFlowStart? .flowMappingStart
    else if c == ']' then s.fetchFlowEnd? .flowSequenceEnd
    else if c == '\x7d' then s.fetchFlowEnd? .flowMappingEnd
    else if c == ',' then s.fetchFlowEntry?
    else if c == '-' && gapAhead rest then s.fetchBlockEntry?
    else if c == '?' && (s.inFlow || gapAhead rest) then s.fetchKey?
    else if c == ':' && (s.inFlow || gapAhead rest) then s.fetchValue?
    else if c == '*' then s.fetchName? .alias
    else if c == '&' then s.fetchName? .anchor
    else if c == '!' then s.fetchTag?
    else if c == '|' && !s.inFlow then s.fetchBlockScalar? false
    else if c == '>' && !s.inFlow then s.fetchBlockScalar? true
    else if c == '\'' then s.fetchQuoted? true
    else if c == '"' then s.fetchQuoted? false
    else if plainAhead s.inFlow (c :: rest) then s.fetchPlain?
    else none

/-- Add tokens up to the end of the text. -/
def run? : (fuel : Nat) → Scanner → Option (List Token)
  | 0, _ => none
  | fuel + 1, s =>
    match s.fetch? with
    | none => none
    | some s => if s.tokens.getLast? == some .streamEnd then some s.tokens else run? fuel s

end Scanner

/-- The tokens of a text. -/
def tokens? (text : String) : Option (List Token) :=
  let cs := text.toList
  if cs.all isAllowed then Scanner.run? (cs.length + 2) { cursor := { rest := cs } } else none

end Critique.Yaml
