import ComponentDocs.Source.Token
import ComponentDocs.Text.Slice

/-!
What stands between two tokens: blanks, line breaks and comments.

A comment belongs to the token that follows it, except where it trails a token:
it then stands on the same line behind that token and a line break follows. A
line comment does not trail a token that opens something, `=` or `(`.
Documentation comments are the block comments whose text starts with a star and
holds more than stars.
-/

namespace ComponentDocs.Source

/-- Characters that separate tokens, line breaks apart. -/
def isGapSpace (c : Char) : Bool :=
  c = ' ' || c = '\t' || c.toNat = 0x0B || c.toNat = 0x0C || c.toNat = 0xA0 ||
    c.toNat = 0x85 || c.toNat = 0xFEFF || c.toNat = 0x1680 ||
    c.toNat = 0x180E || (0x2000 ≤ c.toNat && c.toNat ≤ 0x200B) ||
    c.toNat = 0x202F || c.toNat = 0x205F || c.toNat = 0x3000

/-- The text of a block comment up to its end, given what follows the opening. -/
def blockText : List Char → Option (List Char)
  | [] => none
  | '*' :: '/' :: _ => some []
  | c :: cs => (blockText cs).map (c :: ·)

/-- Whether the text of a block comment documents something. -/
def isDocumentation (text : List Char) : Bool :=
  text.head? = some '*' && !text.all (· = '*')

/-- A block comment that belongs to the token at an offset. -/
structure Comment where
  anchor : Nat
  /-- Where its text is, without the marks around it. -/
  text : Span
  /-- Whether it documents something. -/
  documents : Bool
deriving Repr, DecidableEq

/-- What has been seen since the last token. -/
structure Gap where
  offset : Nat
  /-- The line of the last token is over. -/
  fresh : Bool
  /-- There was a line break, also one inside a comment. -/
  newline : Bool
  /-- Block comments that wait for their token, the latest first. -/
  pending : List (Span × Bool)

/-- Moves past one character. -/
def Gap.past (gap : Gap) (c : Char) : Gap :=
  { gap with offset := gap.offset + c.utf8Size }

/-- A line break: comments on the line of the last token trail it. -/
def Gap.lineBreak (gap : Gap) : Gap :=
  { gap with
    fresh := true
    newline := true
    pending := if gap.fresh then gap.pending else [] }

/-- A line comment, after the last token `opening` something or not. -/
def Gap.lineComment (gap : Gap) (opening : Bool) : Gap :=
  { gap with
    fresh := true
    newline := true
    pending := if gap.fresh || opening then gap.pending else [] }

/-- A block comment at the current offset. -/
def Gap.blockComment (gap : Gap) (text : List Char) : Gap :=
  let start := gap.offset + 2
  { gap with
    newline := gap.newline || text.any isLineBreak
    pending :=
      (⟨start, start + Text.width text⟩, isDocumentation text) :: gap.pending }

/--
Moves to the next token, or to the end. The first argument tells whether the
last token opens something, the second how many characters are already done.
A comment that does not end has no next token.
-/
def skipGap (opening : Bool) : Nat → Gap → List Char → Option (Gap × List Char)
  | _, gap, [] => some (gap, [])
  | skip + 1, gap, c :: cs => skipGap opening skip (gap.past c) cs
  | 0, gap, c :: cs =>
      if isLineBreak c then
        skipGap opening 0 (gap.lineBreak.past c) cs
      else if isGapSpace c then
        skipGap opening 0 (gap.past c) cs
      else if c = '/' ∧ cs.head? = some '/' then
        let size := (cs.takeWhile (fun c => !isLineBreak c)).length + 1
        skipGap opening size ((gap.lineComment opening).past c) cs
      else if c = '/' ∧ cs.head? = some '*' then
        match blockText (cs.drop 1) with
        | some text =>
            skipGap opening (text.length + 3)
              ((gap.blockComment text).past c) cs
        | none => none
      else
        some (gap, c :: cs)

/-- A place between two tokens. -/
structure Position where
  chars : List Char
  offset : Nat
  /-- Comments that belong to tokens so far, the latest first. -/
  comments : List Comment

/-- Moves on by a number of characters. -/
def Position.forward : Nat → Position → Position
  | 0, position => position
  | n + 1, ⟨c :: cs, offset, comments⟩ =>
      Position.forward n ⟨cs, offset + c.utf8Size, comments⟩
  | _ + 1, position => position

/-- A token at its place. -/
structure Lexeme where
  token : Token
  start : Nat
  /-- Whether a line break stands in front of it. -/
  newline : Bool
  /-- The input from the token on. -/
  chars : List Char
  /-- The place behind it. -/
  after : Position

/-- The token that follows a place, where `fresh` says that a line starts. -/
def Position.next (opening fresh : Bool) (position : Position) : Lexeme :=
  match skipGap opening 0 ⟨position.offset, fresh, false, []⟩ position.chars with
  | some (gap, chars) =>
      let (token, size) := Token.read chars
      let comments := gap.pending.map
        (fun (text, documents) => ⟨gap.offset, text, documents⟩)
      ⟨token, gap.offset, gap.newline, chars,
        Position.forward size ⟨chars, gap.offset, comments ++ position.comments⟩⟩
  | none => ⟨.bad, position.offset, false, position.chars, position⟩

/-- The place where a file's first token may stand, behind a `#!` line. -/
def Position.start (text : String) : Position :=
  let chars := text.toList
  let mark := if chars.head?.any (fun c => c.toNat = 0xFEFF) then 1 else 0
  let whole : Position := Position.forward mark ⟨chars, 0, []⟩
  match whole.chars with
  | '#' :: '!' :: _ =>
      Position.forward (whole.chars.takeWhile (fun c => !isLineBreak c)).length
        whole
  | _ => whole

end ComponentDocs.Source
