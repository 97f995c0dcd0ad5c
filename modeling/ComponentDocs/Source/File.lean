import ComponentDocs.DocComment
import ComponentDocs.OrderedMap
import ComponentDocs.Source.Grammar

/-!
A parsed source file: its text, its statements and its comments.

A node is documented by the comments that belong to the offset where it starts.
-/

namespace ComponentDocs.Source

/--
The documentation comments by the offsets that they belong to. A later comment
replaces an earlier one at the same offset.
-/
def commentTable (comments : List Comment) : OrderedMap Nat Span :=
  comments.foldl
    (fun table comment =>
      if comment.documents then table.insert comment.anchor comment.text
      else table)
    OrderedMap.empty

/-- The documentation at the first of some offsets that has any. -/
def commentAt (text : String) (table : OrderedMap Nat Span)
    (anchors : List Nat) : String :=
  match anchors.findSome? table.get? with
  | some span => DocComment.text (Text.textAt text span)
  | none => ""

/-- A source file that follows the grammar. -/
structure File where
  text : String
  statements : List Stmt
  /-- Documentation texts by the offsets that they belong to. -/
  docs : OrderedMap Nat Span

namespace File

/-- Parses a source text in the language that the path stands for. -/
def parse? (path text : String) : Option File := do
  let (statements, comments) ← Source.parse? (Language.ofPath path) text
  return ⟨text, statements, commentTable comments⟩

/-- The documentation of a node, given the offsets where it may start. -/
def comment (file : File) (anchors : List Nat) : String :=
  commentAt file.text file.docs anchors

/-- The source text that a span covers, empty where there is none. -/
def textOf (file : File) (span : Span) : String :=
  Text.textAt file.text span

end File

end ComponentDocs.Source
