/-!
Slices of a text by byte offsets.

Offsets count the bytes of the UTF-8 form. A slice exists exactly when both
ends lie between characters, in order and inside the text.
-/

namespace ComponentDocs

/-- A stretch of source text: the offsets of its first byte and of its end. -/
structure Span where
  start : Nat
  stop : Nat
deriving Repr, DecidableEq, Inhabited

namespace Text

/-- The number of bytes that characters take. -/
def width : List Char → Nat
  | [] => 0
  | c :: cs => c.utf8Size + width cs

/-- Splits `n` bytes off the front, unless they end inside a character. -/
def splitBytes : Nat → List Char → Option (List Char × List Char)
  | 0, cs => some ([], cs)
  | _ + 1, [] => none
  | n + 1, c :: cs =>
      if c.utf8Size ≤ n + 1 then
        (splitBytes (n + 1 - c.utf8Size) cs).map
          (fun (taken, rest) => (c :: taken, rest))
      else
        none
termination_by structural _ cs => cs

/-- The characters between two byte offsets, if both are boundaries. -/
def sliceChars (cs : List Char) (span : Span) : Option (List Char) :=
  if span.start ≤ span.stop then do
    let (_, tail) ← splitBytes span.start cs
    let (piece, _) ← splitBytes (span.stop - span.start) tail
    return piece
  else
    none

/-- The text between two byte offsets, if both are boundaries of `s`. -/
def slice (s : String) (span : Span) : Option String :=
  (sliceChars s.toList span).map String.ofList

/-- The text of a span, empty where there is no such slice. -/
def textAt (s : String) (span : Span) : String :=
  (slice s span).getD ""

end Text

end ComponentDocs
