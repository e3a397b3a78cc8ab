import Critique.Yaml.Token

/-!
# Scanning scalars

A scalar is plain, quoted or a block.  Plain and quoted scalars may run over several lines, whose
ends are folded: one end becomes a space, and of several ends the first disappears.  A block scalar
keeps its lines, or folds them if it is a folded one, and takes as much of its last line ends as its
header says.

Each scanner gives the text of the scalar and the cursor behind it.  Loops over lines count down
the length of the text that is left, which is always enough because every round moves on.
-/

namespace Critique.Yaml

/-! ## Folding -/

/-- What stands between two words of a scalar: spaces within a line, or the ends of lines. -/
structure Fold where
  /-- Has a line ended? -/
  broken : Bool := false
  spaces : List Char := []
  first : List Char := []
  others : List Char := []
  deriving Repr, Inhabited

/-- The text that the stretch between two words stands for. -/
def Fold.text (f : Fold) : List Char :=
  if f.broken then
    if f.first == ['\n'] then (if f.others.isEmpty then [' '] else f.others)
    else f.first ++ f.others
  else f.spaces

/-- Move over spaces, tabs and ends of lines.  Behind the end of a line a tab may not stand left of
the column `floor`. -/
def scanFold (floor : Int) : (fuel : Nat) → Cursor → Fold → Option (Cursor × Fold)
  | 0, c, f => some (c, f)
  | fuel + 1, c, f =>
    match c.rest with
    | [] => some (c, f)
    | x :: _ =>
      if isSpace x then
        if f.broken then
          if x == '\t' && (c.column : Int) < floor then none
          else scanFold floor fuel (c.advance 1) f
        else scanFold floor fuel (c.advance 1) { f with spaces := f.spaces ++ [x] }
      else if isBreak x then
        if f.broken then scanFold floor fuel c.skipLine { f with others := f.others ++ c.lineBreak }
        else
          scanFold floor fuel c.skipLine
            { f with broken := true, spaces := [], first := c.lineBreak }
      else some (c, f)

/-! ## Plain scalars -/

/-- Is the character one of the signs of flow collections? -/
def isFlowSign (c : Char) : Bool :=
  c == ',' || c == '[' || c == ']' || c == '\x7b' || c == '\x7d'

/-- The characters of a plain scalar up to the next gap or the end of the scalar. -/
def plainRun (flow : Bool) : List Char → Option (List Char)
  | [] => some []
  | c :: cs =>
    if isGap c then some []
    else if flow && c == ':' && cs.head?.any (fun d => isFlowSign d || d == '?') then none
    else if (c == ':' && gapAhead cs) || (flow && isFlowSign c) then some []
    else (plainRun flow cs).map (c :: ·)

/-- The rest of a plain scalar after the text `acc` and the stretch `fold`.  The result says also
whether the scanner has gone on to another line. -/
def plainRest (flow : Bool) (indent : Int) :
    (fuel : Nat) → Cursor → List Char → Fold → Option (Cursor × List Char × Bool)
  | 0, c, acc, fold => some (c, acc, fold.broken)
  | fuel + 1, c, acc, fold =>
    if (c.column == 0 && documentMarkAhead c.rest) || c.sees '#' then some (c, acc, fold.broken)
    else
      match plainRun flow c.rest with
      | none => none
      | some run =>
        let acc' := if run.isEmpty then acc else acc ++ fold.text ++ run
        let fold := if run.isEmpty then fold else {}
        let c := c.advance run.length
        if !c.seesAny isGap then some (c, acc', fold.broken)
        else
          match scanFold indent (c.rest.length + 1) c fold with
          | none => none
          | some (c, fold) =>
            if !flow && (c.column : Int) < indent then some (c, acc', fold.broken)
            else plainRest flow indent fuel c acc' fold

/-- A plain scalar. -/
def scanPlain (flow : Bool) (indent : Int) (c : Cursor) : Option (Cursor × List Char × Bool) :=
  plainRest flow indent (c.rest.length + 1) c [] {}

/-! ## Quoted scalars -/

/-- The value of a hexadecimal digit. -/
def hexValue? (c : Char) : Option Nat :=
  if '0' ≤ c && c ≤ '9' then some (c.toNat - '0'.toNat)
  else if 'a' ≤ c && c ≤ 'f' then some (c.toNat - 'a'.toNat + 10)
  else if 'A' ≤ c && c ≤ 'F' then some (c.toNat - 'A'.toNat + 10)
  else none

/-- The number written by hexadecimal digits. -/
def hexNumber? (ds : List Char) : Option Nat :=
  ds.foldlM (fun n d => (hexValue? d).map fun v => 16 * n + v) 0

/-- The escapes of one letter, with the code points that they stand for. -/
def letterEscapes : List (Char × Nat) := [
  ('0', 0), ('a', 0x07), ('b', 0x08), ('t', 0x09), ('\t', 0x09), ('n', 0x0A), ('v', 0x0B),
  ('f', 0x0C), ('r', 0x0D), ('e', 0x1B), (' ', 0x20), ('"', 0x22), ('/', 0x2F), ('\\', 0x5C),
  ('N', 0x85), ('_', 0xA0), ('L', 0x2028), ('P', 0x2029)]

/-- The escapes with a code in hexadecimal, with the number of its digits. -/
def codeEscapes : List (Char × Nat) := [('x', 2), ('u', 4), ('U', 8)]

/-- The character of an escape, given the text after the backslash, and how many characters of the
text belong to it. -/
def escape? : List Char → Option (Char × Nat)
  | [] => none
  | e :: rest =>
    match letterEscapes.lookup e, codeEscapes.lookup e with
    | some n, _ => some (Char.ofNat n, 1)
    | none, some digits =>
      if (rest.take digits).length < digits then none
      else
        match hexNumber? (rest.take digits) with
        | none => none
        | some n =>
          if (0xD800 ≤ n && n ≤ 0xDFFF) || 0x10FFFF < n then none
          else some (Char.ofNat n, digits + 1)
    | none, none => none

/-- The characters of a quoted scalar up to the next gap or the closing quote.  The result says also
whether the run ends in an escaped end of line. -/
def quotedRun (single : Bool) :
    (fuel : Nat) → Cursor → List Char → Option (Cursor × List Char × Bool)
  | 0, c, acc => some (c, acc, false)
  | fuel + 1, c, acc =>
    match c.rest with
    | [] => some (c, acc, false)
    | x :: rest =>
      if isGap x then some (c, acc, false)
      else if single then
        if x == '\'' then
          if rest.head? == some '\'' then quotedRun single fuel (c.advance 2) (acc ++ ['\''])
          else some (c, acc, false)
        else quotedRun single fuel (c.advance 1) (acc ++ [x])
      else if x == '"' then some (c, acc, false)
      else if x == '\\' then
        if rest.head?.any isBreak then some ((c.advance 1).skipLine, acc, true)
        else
          match escape? rest with
          | none => none
          | some (e, n) => quotedRun single fuel (c.advance (n + 1)) (acc ++ [e])
      else quotedRun single fuel (c.advance 1) (acc ++ [x])

/-- The rest of a quoted scalar after the text `acc`. -/
def quotedRest (single : Bool) : (fuel : Nat) → Cursor → List Char → Option (Cursor × List Char)
  | 0, _, _ => none
  | fuel + 1, c, acc =>
    if (c.column == 0 && documentMarkAhead c.rest) || c.rest.isEmpty then none
    else
      match quotedRun single (c.rest.length + 1) c acc with
      | none => none
      | some (c, acc, escaped) =>
        if c.sees (if single then '\'' else '"') then some (c.advance 1, acc)
        else
          match scanFold 0 (c.rest.length + 1) c { broken := escaped } with
          | none => none
          | some (c, fold) => quotedRest single fuel c (acc ++ fold.text)

/-- A quoted scalar, whose opening quote is the first character left. -/
def scanQuoted (single : Bool) (c : Cursor) : Option (Cursor × List Char) :=
  let c := c.advance 1
  quotedRest single (c.rest.length + 1) c []

/-! ## Block scalars -/

/-- What a block scalar does with the ends of its last lines. -/
inductive Chomp where
  | clip
  | strip
  | keep
  deriving Repr, DecidableEq

/-- The sign for the last line ends. -/
def chomp? : List Char → Option Chomp
  | '+' :: _ => some .keep
  | '-' :: _ => some .strip
  | _ => none

/-- The header of a block scalar behind its sign: what happens to the last line ends, and how far
the lines are indented, if this is said. -/
def blockHeader? (c : Cursor) : Option (Cursor × Chomp × Option Nat) :=
  let digit? := fun (c : Cursor) => c.head?.filter Char.isDigit
  let number := fun (d : Char) => d.toNat - '0'.toNat
  match chomp? c.rest with
  | some chomp =>
    let c := c.advance 1
    match digit? c with
    | some '0' => none
    | some d => some (c.advance 1, chomp, some (number d))
    | none => some (c, chomp, none)
  | none =>
    match digit? c with
    | some '0' => none
    | some d =>
      let c := c.advance 1
      match chomp? c.rest with
      | some chomp => some (c.advance 1, chomp, some (number d))
      | none => some (c, .clip, some (number d))
    | none => some (c, .clip, none)

/-- Move over the rest of a line that may hold only spaces and a comment, and over its end. -/
def skipLineRest? (c : Cursor) : Option Cursor :=
  let c := c.skipWhile isSpace
  let c := if c.sees '#' then c.skipWhile (!isBreak ·) else c
  if lineEndAhead c.rest then some c.skipLine else none

/-- Move over empty lines and the indentation of the next line.  While the indentation `indent` is
unknown, all spaces belong to it.  The result has the ends of the empty lines and the greatest
column. -/
def blockBreaks (indent : Option Nat) :
    (fuel : Nat) → Cursor → List Char → Nat → Option (Cursor × List Char × Nat)
  | 0, c, breaks, widest => some (c, breaks, widest)
  | fuel + 1, c, breaks, widest =>
    let spaces := (c.rest.takeWhile (· == ' ')).length
    let c :=
      match indent with
      | none => c.advance spaces
      | some n => c.advance (min spaces (n - c.column))
    let widest := max widest c.column
    let within := match indent with
      | none => true
      | some n => c.column < n
    if within && c.sees '\t' then none
    else if c.seesAny isBreak then
      blockBreaks indent fuel c.skipLine (breaks ++ c.lineBreak) widest
    else some (c, breaks, widest)

/-- The lines of a block scalar, all indented by `indent`.  `leading` is the end of the line before
and `breaks` the ends of the empty lines after it; `blank` says that the line before starts with a
space.  The result has the text, and the line ends that are left over. -/
def blockLines (folded : Bool) (indent : Nat) : (fuel : Nat) → Cursor →
    (acc leading breaks : List Char) → (blank : Bool) →
    Option (Cursor × List Char × List Char × List Char)
  | 0, c, acc, leading, breaks, _ => some (c, acc, leading, breaks)
  | fuel + 1, c, acc, leading, breaks, blank =>
    if c.column == indent && !c.rest.isEmpty then
      let blankNow := c.seesAny isSpace
      let acc :=
        if folded && leading == ['\n'] && !blank && !blankNow then
          (if breaks.isEmpty then acc ++ [' '] else acc)
        else acc ++ leading
      let run := c.rest.takeWhile (!isBreak ·)
      let acc := acc ++ breaks ++ run
      let c := c.advance run.length
      let leading := c.lineBreak
      match blockBreaks (some indent) (c.rest.length + 1) c.skipLine [] 0 with
      | none => none
      | some (c, breaks, _) => blockLines folded indent fuel c acc leading breaks blankNow
    else some (c, acc, leading, breaks)

/-- A block scalar, whose sign is the first character left, inside a collection indented by
`outer`. -/
def scanBlock (folded : Bool) (outer : Int) (c : Cursor) : Option (Cursor × List Char) := do
  let (c, chomp, increment) ← blockHeader? (c.advance 1)
  let c ← skipLineRest? c
  let given := increment.map fun n => if 0 ≤ outer then outer.toNat + n else n
  let (c, breaks, widest) ← blockBreaks given (c.rest.length + 1) c [] 0
  let indent := given.getD (max widest (max (outer + 1).toNat 1))
  let (c, acc, leading, breaks) ←
    blockLines folded indent (c.rest.length + 1) c [] [] breaks false
  return (c, acc ++
    match chomp with
    | .strip => []
    | .clip => leading
    | .keep => leading ++ breaks)

end Critique.Yaml
