import ComponentDocs.Text.Blank
import ComponentDocs.Text.Lines

/-!
The text of a documentation comment.

A comment is given without its opening and closing marks. Each line may start
with a gutter: blanks, a star and one space. The description ends at the first
line that starts with a tag.
-/

namespace ComponentDocs.DocComment

/-- A line without its gutter and without blanks at its end. -/
def content (line : List Char) : List Char :=
  let body := match Text.trimStart line with
    | '*' :: ' ' :: rest => rest
    | '*' :: rest => rest
    | rest => rest
  Text.trimEnd body

/-- Whether a line opens the tags. -/
def isTag (line : List Char) : Bool :=
  (Text.trimStart line).head? = some '@'

/-- The lines of the description. -/
def descriptionLines (raw : List Char) : List (List Char) :=
  ((Text.lines raw).map content).takeWhile (fun line => !isTag line)

/-- The description: its lines, without blanks around them. -/
def description (raw : List Char) : List Char :=
  Text.trim (Text.joinWith '\n' (descriptionLines raw))

/-- The text that a comment gives as documentation. -/
def text (raw : String) : String :=
  String.ofList (description raw.toList)

end ComponentDocs.DocComment
