import ComponentDocs.Source.Literal

/-!
Tokens, and the token at the front of the input.

A slash is always a mark here, and so is a single `>`: whether a regular
expression or a longer operator is meant depends on the grammar, which reads
those again. A broken token is a token of its own, because it only matters if
the grammar does not read the place in another way.
-/

namespace ComponentDocs.Source

/-- A token of the source language. -/
inductive Token where
  /-- An identifier or keyword, and whether it is written with an escape. -/
  | word (text : String) (escaped : Bool)
  /-- A name behind `#`. -/
  | privateName (text : String)
  /-- An operator or a bracket. -/
  | mark (text : String)
  | number (raw name : String)
  | bigint (digits : String)
  | string (value : String)
  /-- Template text, and whether it ends the template. -/
  | template (text : Option String) (closed : Bool)
  | endOfFile
  | bad
deriving Repr, DecidableEq, Inhabited

/-- The marks, each before those that it begins with. -/
def marks : List (List Char) :=
  ["...", "===", "!==", "**=", "<<=", "&&=", "||=", "??=", "=>", "==", "!=",
    "**", "++", "--", "<<", "<=", "&&", "||", "??", "?.", "+=", "-=", "*=",
    "/=", "%=", "&=", "|=", "^=", "\x7b", "\x7d", "(", ")", "[", "]", ";", ",",
    "<", ">", "+", "-", "*", "/", "%", "&", "|", "^", "!", "~", "?", ":", "=",
    ".", "@"].map String.toList

/-- Whether a mark stands at the front; `?.` does not stand before a digit. -/
def startsWithMark (cs mark : List Char) : Bool :=
  mark.isPrefixOf cs &&
    !(mark = ['?', '.'] && (cs.drop 2).head?.any Char.isDigit)

/-- The mark at the front of the input. -/
def readMark (cs : List Char) : Token × Nat :=
  match marks.find? (startsWithMark cs) with
  | some mark => (.mark (String.ofList mark), mark.length)
  | none => (.bad, 1)

/--
The rest of a word. An escape stands for the character that it names, which has
to be one that may stand there.
-/
def wordRest (first : Bool) : Nat → List Char → Option (List Char × Nat × Bool)
  | _, [] => some ([], 0, false)
  | skip + 1, _ :: cs => do
      let (text, size, escaped) ← wordRest first skip cs
      return (text, size + 1, escaped)
  | 0, c :: cs =>
      let allowed (c : Char) :=
        if first then Text.isIdentifierStart c else Text.isIdentifierPart c
      if allowed c then do
        let (text, size, escaped) ← wordRest false 0 cs
        return (c :: text, size + 1, escaped)
      else if c = '\\' then
        match cs with
        | 'u' :: rest => do
            let (point, taken) ← unicodeEscape rest
            if isSurrogate point || !allowed (Char.ofNat point) then none
            else
              let (text, size, _) ← wordRest false (taken + 1) cs
              return (Char.ofNat point :: text, size + 1, true)
        | _ => none
      else
        some ([], 0, false)

/-- The word at the front of the input. -/
def readWord (cs : List Char) : Token × Nat :=
  match wordRest true 0 cs with
  | some (text, size, escaped) =>
      if text.isEmpty then (.bad, 1) else (.word (String.ofList text) escaped, size)
  | none => (.bad, 1)

/-- The number at the front of the input. No word may follow it directly. -/
def readNumber (cs : List Char) : Token × Nat :=
  let follows (size : Nat) : Bool :=
    (cs.drop size).head?.any
      (fun c => Text.isIdentifierStart c || c.isDigit || c = '\\')
  match numeral cs with
  | some (.number name size) =>
      if follows size then (.bad, 1)
      else (.number (String.ofList (cs.take size)) name, size)
  | some (.bigint digits size) =>
      if follows size then (.bad, 1) else (.bigint digits, size)
  | none => (.bad, 1)

/-- Template text, given what follows the opening quote or brace. -/
def readTemplate (cs : List Char) : Token × Nat :=
  match templateRest 0 cs with
  | some rest => (.template (rest.text.map textOfCodePoints) rest.closed, rest.size + 1)
  | none => (.bad, 1)

/-- The token at the front of the input, and the characters that it takes. -/
def Token.read (cs : List Char) : Token × Nat :=
  match cs with
  | [] => (.endOfFile, 0)
  | c :: rest =>
      if c = '"' || c = '\x27' then
        match quotedRest c 0 rest with
        | some (points, size) => (.string (textOfCodePoints points), size + 1)
        | none => (.bad, 1)
      else if c = '\x60' then
        readTemplate rest
      else if c.isDigit || (c = '.' && rest.head?.any Char.isDigit) then
        readNumber cs
      else if c = '#' then
        match readWord rest with
        | (.word text _, size) => (.privateName text, size + 1)
        | _ => (.bad, 1)
      else if Text.isIdentifierStart c || c = '\\' then
        readWord cs
      else
        readMark cs

end ComponentDocs.Source
