import Critique.Text.Visible

/-!
# Quoted text

A text shown inside a message stands between double quotes.  Quotes and backslashes in it are
escaped, the usual control characters have short escapes, and every other character that cannot be
shown as itself is written `\u{…}` with its code point in hexadecimal.

`quoted` is this form.  Single quotes stand for themselves in it.
-/

namespace Critique.Text

/-- The escape `\u{…}` of a character. -/
def codeEscape (c : Char) : List Char :=
  ['\\', 'u', '\x7b'] ++ Nat.toDigits 16 c.toNat ++ ['\x7d']

/-- How one character is written between double quotes. -/
def quotedChar (c : Char) : List Char :=
  match c with
  | '\x00' => ['\\', '0']
  | '\t' => ['\\', 't']
  | '\r' => ['\\', 'r']
  | '\n' => ['\\', 'n']
  | '"' => ['\\', '"']
  | '\\' => ['\\', '\\']
  | c => if isVisible c then [c] else codeEscape c

/-- A text between double quotes, with escapes. -/
def quoted (s : String) : String :=
  String.ofList ('"' :: s.toList.flatMap quotedChar ++ ['"'])

end Critique.Text
