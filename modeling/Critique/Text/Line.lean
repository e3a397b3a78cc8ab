/-!
# Lines

`lines` cuts a text into its lines.  A line ends at a line feed, and a carriage return directly
before that line feed belongs to the line ending.  A last piece without a line feed is a line as it
stands, with any carriage return it ends in, and nothing follows a final line feed.
-/

namespace Critique.Text

/-- The lines of a list of characters. -/
def lines : List Char → List (List Char)
  | [] => []
  | '\n' :: cs => [] :: lines cs
  | '\r' :: '\n' :: cs => [] :: lines cs
  | c :: cs =>
    match lines cs with
    | [] => [[c]]
    | l :: ls => (c :: l) :: ls

/-- The lines of a text. -/
def textLines (s : String) : List String :=
  (lines s.toList).map String.ofList

end Critique.Text
