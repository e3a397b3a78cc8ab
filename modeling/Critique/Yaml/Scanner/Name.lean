import Critique.Text.Utf8
import Critique.Yaml.Token
import Critique.Yaml.Scanner.Scalar

/-!
# Scanning names, tags and directives

Anchors and aliases are names behind a sign.  A tag is a handle between exclamation marks with a
suffix, or a suffix alone, or a whole address in angle brackets.  A directive says which version of
YAML a document follows or what a handle stands for.
-/

namespace Critique.Yaml

/-- The name behind the sign of an anchor or an alias. -/
def scanName (c : Cursor) : Option (Cursor × String) :=
  let c := c.advance 1
  let name := c.rest.takeWhile isNameChar
  let c := c.advance name.length
  let ends := gapAhead c.rest ||
    c.seesAny fun x => x == '?' || x == ':' || x == ',' || x == ']' || x == '\x7d' || x == '%' ||
      x == '@' || x == (Char.ofNat 0x60)
  if name.isEmpty || !ends then none else some (c, String.ofList name)

/-! ## Tags -/

/-- A handle: an exclamation mark, a name, and a second mark if there is one.  In a directive the
second mark is missing only when the handle is a single mark. -/
def scanHandle (directive : Bool) (c : Cursor) : Option (Cursor × List Char) :=
  if !c.sees '!' then none
  else
    let c := c.advance 1
    let name := c.rest.takeWhile isNameChar
    let c := c.advance name.length
    if c.sees '!' then some (c.advance 1, '!' :: name ++ ['!'])
    else if directive && !name.isEmpty then none
    else some (c, '!' :: name)

/-- May the character stand in the address of a tag?  Commas and brackets may only inside angle
brackets and in directives. -/
def isAddressChar (wide : Bool) (c : Char) : Bool :=
  isNameChar c || ";/?:@&=+$.%!~*'()".toList.contains c || (wide && ",[]".toList.contains c)

/-- One byte written as a percent sign and two hexadecimal digits. -/
def percentByte? : List Char → Option UInt8
  | '%' :: a :: b :: _ => (hexNumber? [a, b]).map fun n => n.toUInt8
  | _ => none

/-- The number of bytes of a character, by its first byte. -/
def byteWidth (b : UInt8) : Nat :=
  if b < 0x80 then 1 else if b &&& 0xE0 == 0xC0 then 2 else if b &&& 0xF0 == 0xE0 then 3
  else if b &&& 0xF8 == 0xF0 then 4 else 0

/-- A character written as percent signs and hexadecimal digits, and the number of characters that
it takes. -/
def percentChar? (cs : List Char) : Option (Char × Nat) := do
  let width := byteWidth (← percentByte? cs)
  if width == 0 then none
  let bytes ← (List.range width).mapM fun i => percentByte? (cs.drop (3 * i))
  match (Text.Utf8.decode? bytes).map String.toList with
  | some [c] => return (c, 3 * width)
  | _ => none

/-- The address of a tag, as far as it goes. -/
def scanAddress (wide : Bool) : (fuel : Nat) → Cursor → List Char → Option (Cursor × List Char)
  | 0, c, acc => some (c, acc)
  | fuel + 1, c, acc =>
    match c.rest with
    | [] => some (c, acc)
    | x :: _ =>
      if x == '%' then
        match percentChar? c.rest with
        | some (e, n) => scanAddress wide fuel (c.advance n) (acc ++ [e])
        | none => none
      else if isAddressChar wide x then scanAddress wide fuel (c.advance 1) (acc ++ [x])
      else some (c, acc)

/-- The address of a tag, which must not be empty. -/
def scanAddress? (wide : Bool) (c : Cursor) : Option (Cursor × List Char) :=
  match scanAddress wide (c.rest.length + 1) c [] with
  | some (c', address) => if address.isEmpty then none else some (c', address)
  | none => none

/-- A tag, as its handle and its suffix. -/
def scanTag (flow : Bool) (c : Cursor) : Option (Cursor × String × String) := do
  let (c, handle, suffix) ←
    match c.rest with
    | '!' :: '<' :: _ => do
      let (c, address) ← scanAddress? true (c.advance 2)
      if c.sees '>' then some (c.advance 1, [], address) else none
    | _ => do
      let (c, handle) ← scanHandle false c
      if 1 < handle.length && handle.getLast? == some '!' then
        let (c, suffix) ← scanAddress? false c
        some (c, handle, suffix)
      else
        let (c, suffix) ← scanAddress false (c.rest.length + 1) c (handle.drop 1)
        if suffix.isEmpty then some (c, [], ['!']) else some (c, ['!'], suffix)
  if gapAhead c.rest || (flow && c.sees ',') then
    return (c, String.ofList handle, String.ofList suffix)
  else none

/-! ## Directives -/

/-- A number of at most nine digits. -/
def scanNumber? (c : Cursor) : Option (Cursor × Nat) :=
  let ds := c.rest.takeWhile Char.isDigit
  if ds.isEmpty || 9 < ds.length then none
  else some (c.advance ds.length, ds.foldl (fun n d => 10 * n + (d.toNat - '0'.toNat)) 0)

/-- A directive with the line that it stands on. -/
def scanDirective (c : Cursor) : Option (Cursor × Token) := do
  let c := c.advance 1
  let name := c.rest.takeWhile isNameChar
  let c := c.advance name.length
  if name.isEmpty || !gapAhead c.rest then none
  let c := c.skipWhile isSpace
  let (c, token) ←
    if name == "YAML".toList then do
      let (c, major) ← scanNumber? c
      if !c.sees '.' then none
      let (c, minor) ← scanNumber? (c.advance 1)
      some (c, Token.versionDirective major minor)
    else if name == "TAG".toList then do
      let (c, handle) ← scanHandle true c
      if !c.seesAny isSpace then none
      let (c, target) ← scanAddress? true (c.skipWhile isSpace)
      if !gapAhead c.rest then none
      some (c, Token.tagDirective (String.ofList handle) (String.ofList target))
    else none
  return (← skipLineRest? c, token)

end Critique.Yaml
