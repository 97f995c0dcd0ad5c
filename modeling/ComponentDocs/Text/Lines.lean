/-!
Splitting text into lines.
-/

namespace ComponentDocs.Text

/--
The lines of a text. A line ends at a line feed, or at a carriage return
directly followed by one; a carriage return elsewhere is an ordinary character,
and the end of the text ends a line only if the line is not empty.
-/
def lines : List Char → List (List Char)
  | [] => []
  | '\n' :: rest => [] :: lines rest
  | '\r' :: '\n' :: rest => [] :: lines rest
  | c :: rest =>
      match lines rest with
      | [] => [[c]]
      | line :: others => (c :: line) :: others

/-- Joins texts with one separator character between neighbours. -/
def joinWith (sep : Char) : List (List Char) → List Char
  | [] => []
  | [piece] => piece
  | piece :: pieces => piece ++ sep :: joinWith sep pieces

end ComponentDocs.Text
