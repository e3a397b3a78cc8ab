import Critique.Json.Number

/-!
# Writing JSON

`Json.compact` writes a document on one line without spaces, and `Json.pretty` writes it with one
item or field a line and two spaces for each level.  An empty list or object stays on its line in
both.  In strings only quotes, backslashes and control characters are escaped.
-/

namespace Critique.Json

/-- A hexadecimal digit in lower case. -/
def hexChar (n : Nat) : Char :=
  Nat.digitChar n

/-- How one character is written inside a string. -/
def escapeChar (c : Char) : List Char :=
  match c with
  | '"' => ['\\', '"']
  | '\\' => ['\\', '\\']
  | '\x08' => ['\\', 'b']
  | '\x0C' => ['\\', 'f']
  | '\n' => ['\\', 'n']
  | '\r' => ['\\', 'r']
  | '\t' => ['\\', 't']
  | c =>
    if c.toNat < 0x20 then
      ['\\', 'u', '0', '0', hexChar (c.toNat / 16), hexChar (c.toNat % 16)]
    else [c]

/-- A string with its quotes. -/
def stringChars (s : String) : List Char :=
  '"' :: s.toList.flatMap escapeChar ++ ['"']

/-- A scalar that is neither a list nor an object. -/
def scalarChars : Json → List Char
  | .bool true => "true".toList
  | .bool false => "false".toList
  | .num n => n.render
  | .str s => stringChars s
  | _ => "null".toList

mutual

/-- A document without spaces. -/
def compactChars : Json → List Char
  | .arr items => '[' :: compactItems items ++ [']']
  | .obj fields => '\x7b' :: compactFields fields ++ ['\x7d']
  | .null => scalarChars .null
  | .bool b => scalarChars (.bool b)
  | .num n => scalarChars (.num n)
  | .str s => scalarChars (.str s)
  | .unreadable => scalarChars .unreadable

/-- Items with commas between them. -/
def compactItems : List Json → List Char
  | [] => []
  | [v] => compactChars v
  | v :: vs => compactChars v ++ ',' :: compactItems vs

/-- Fields with commas between them. -/
def compactFields : List (String × Json) → List Char
  | [] => []
  | [(name, v)] => stringChars name ++ ':' :: compactChars v
  | (name, v) :: fs => stringChars name ++ ':' :: compactChars v ++ ',' :: compactFields fs

end

/-- A line feed and the indentation of a level. -/
def newLine (level : Nat) : List Char :=
  '\n' :: List.replicate (2 * level) ' '

mutual

/-- A document with one item or field a line, at a level of indentation. -/
def prettyChars (level : Nat) : Json → List Char
  | .arr [] => ['[', ']']
  | .arr items => '[' :: prettyItems (level + 1) items ++ newLine level ++ [']']
  | .obj [] => ['\x7b', '\x7d']
  | .obj fields => '\x7b' :: prettyFields (level + 1) fields ++ newLine level ++ ['\x7d']
  | .null => scalarChars .null
  | .bool b => scalarChars (.bool b)
  | .num n => scalarChars (.num n)
  | .str s => scalarChars (.str s)
  | .unreadable => scalarChars .unreadable

/-- Items, each on a line of its own. -/
def prettyItems (level : Nat) : List Json → List Char
  | [] => []
  | [v] => newLine level ++ prettyChars level v
  | v :: vs => newLine level ++ prettyChars level v ++ ',' :: prettyItems level vs

/-- Fields, each on a line of its own. -/
def prettyFields (level : Nat) : List (String × Json) → List Char
  | [] => []
  | [(name, v)] => newLine level ++ stringChars name ++ ':' :: ' ' :: prettyChars level v
  | (name, v) :: fs =>
    newLine level ++ stringChars name ++ ':' :: ' ' :: prettyChars level v ++
      ',' :: prettyFields level fs

end

/-- A document on one line without spaces. -/
def compact (v : Json) : String :=
  String.ofList (compactChars v)

/-- A document with one item or field a line. -/
def pretty (v : Json) : String :=
  String.ofList (prettyChars 0 v)

end Critique.Json
