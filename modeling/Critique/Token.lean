import Critique.Text.Blank
import Critique.Text.Word

/-!
# Tokens

A token is a maximal run of the plain word characters `A-Z a-z 0-9 _`, or one single character
that is neither such a character nor white space.  White space separates tokens and belongs to
none.

`splitTokens` reads a text from its end: every character that is not blank either starts a token
of its own or, when it and its neighbour are plain word characters, is put in front of the token
that follows.
-/

namespace Critique

open Text

/-- Put a character in front of a list of tokens: it joins the first token exactly when `fuse`
holds. -/
def pushToken (fuse : Bool) (c : Char) : List (List Char) → List (List Char)
  | t :: ts => if fuse then (c :: t) :: ts else [c] :: t :: ts
  | [] => [[c]]

/-- Is the first character, if there is one, a plain word character? -/
def plainAhead : List Char → Bool
  | [] => false
  | c :: _ => isPlain c

/-- The tokens of a list of characters, in order. -/
def splitTokens : List Char → List (List Char)
  | [] => []
  | c :: cs =>
    if isPlain c then pushToken (plainAhead cs) c (splitTokens cs)
    else if isBlank c then splitTokens cs
    else [c] :: splitTokens cs

/-- The tokens of a text, in order. -/
def tokenize (code : String) : List String :=
  (splitTokens code.toList).map String.ofList

/-- The shape of a token: a non-empty run of plain word characters, or one character that is
neither plain nor blank. -/
def isTokenShaped (t : List Char) : Bool :=
  match t with
  | [] => false
  | [c] => isPlain c || !isBlank c
  | t => t.all isPlain

end Critique
