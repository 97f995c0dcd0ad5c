import ComponentDocs.Decimal.Binary64
import ComponentDocs.Text.Identifier
import ComponentDocs.Text.Quoted

/-!
Reading the literals of the source language.

Each reader looks at the characters that follow and tells what it read and how
many characters it took. Text inside quotes is read as code points, because an
escape may name half of a surrogate pair on its own.
-/

namespace ComponentDocs.Source

/-- The characters that end a line. -/
def isLineBreak (c : Char) : Bool :=
  c = '\n' || c = '\r' || c.toNat = 0x2028 || c.toNat = 0x2029

/-- Whether a character is a hexadecimal digit. -/
def isHexDigit (c : Char) : Bool :=
  c.isDigit || ('a' ≤ c && c ≤ 'f') || ('A' ≤ c && c ≤ 'F')

/-- Whether a code point is half of a surrogate pair. -/
def isSurrogate (n : Nat) : Bool :=
  0xD800 ≤ n && n ≤ 0xDFFF

/-- The value of exactly `count` hexadecimal digits at the front. -/
def hexPrefix (count : Nat) (cs : List Char) : Option Nat :=
  let digits := cs.take count
  if digits.length = count ∧ digits.all isHexDigit then
    some (Decimal.digitsValue 16 digits)
  else
    none

/-- A code point in braces, after `u`: its value and the characters taken. -/
def bracedCodePoint (cs : List Char) : Option (Nat × Nat) :=
  match cs with
  | '\x7b' :: rest =>
      let digits := rest.takeWhile isHexDigit
      let value := Decimal.digitsValue 16 digits
      match rest.drop digits.length with
      | '\x7d' :: _ =>
          if digits.isEmpty || 0x10FFFF < value then none
          else some (value, digits.length + 2)
      | _ => none
  | _ => none

/--
A Unicode escape after its `u`. Two escapes that form a surrogate pair are read
as one code point.
-/
def unicodeEscape (cs : List Char) : Option (Nat × Nat) :=
  match cs with
  | '\x7b' :: _ => bracedCodePoint cs
  | _ => do
      let high ← hexPrefix 4 cs
      let alone := (high, 4)
      if 0xD800 ≤ high ∧ high ≤ 0xDBFF then
        match cs.drop 4 with
        | '\\' :: 'u' :: rest =>
            match hexPrefix 4 rest with
            | some low =>
                if 0xDC00 ≤ low ∧ low ≤ 0xDFFF then
                  return (0x10000 + (high - 0xD800) * 0x400 + (low - 0xDC00), 10)
                else
                  return alone
            | none => return alone
        | _ => return alone
      else
        return alone

/-- Whether a character is an octal digit. -/
def isOctalDigit (c : Char) : Bool :=
  '0' ≤ c && c ≤ '7'

/-- An escape that starts with a digit. Only `\0` may stand in a template. -/
def digitEscape (inTemplate : Bool) (cs : List Char) :
    Option (List Nat × Nat) :=
  let followed := (cs.drop 1).head?.any Char.isDigit
  match cs with
  | [] => none
  | c :: _ =>
      if inTemplate then
        if c = '0' ∧ !followed then some ([0], 1) else none
      else if isOctalDigit c then
        let most := if c ≤ '3' then 3 else 2
        let digits := (cs.take most).takeWhile isOctalDigit
        some ([Decimal.digitsValue 8 digits], digits.length)
      else
        some ([c.toNat], 1)

/--
The escape behind a backslash: the code points that it stands for, none for a
line break, and the characters taken.
-/
def escape (inTemplate : Bool) (cs : List Char) : Option (List Nat × Nat) :=
  match cs with
  | [] => none
  | '\r' :: '\n' :: _ => some ([], 2)
  | 'n' :: _ => some ([10], 1)
  | 't' :: _ => some ([9], 1)
  | 'r' :: _ => some ([13], 1)
  | 'b' :: _ => some ([8], 1)
  | 'v' :: _ => some ([11], 1)
  | 'f' :: _ => some ([12], 1)
  | 'x' :: rest => (hexPrefix 2 rest).map (fun n => ([n], 3))
  | 'u' :: rest => (unicodeEscape rest).map (fun (n, size) => ([n], size + 1))
  | c :: _ =>
      if isLineBreak c then some ([], 1)
      else if c.isDigit then digitEscape inTemplate cs
      else some ([c.toNat], 1)

/-- Four hexadecimal digits of a number below two to the sixteen. -/
def hex4 (n : Nat) : List Char :=
  let digits := Text.hex n
  List.replicate (4 - digits.length) '0' ++ digits

/--
The text of code points. Where one of them is half of a surrogate pair, each
such half is written as a replacement character and four hexadecimal digits,
and so is a replacement character itself.
-/
def textOfCodePoints (points : List Nat) : String :=
  let marked (n : Nat) := Char.ofNat 0xFFFD :: hex4 n
  if points.any isSurrogate then
    String.ofList (points.flatMap fun n =>
      if isSurrogate n || n = 0xFFFD then marked n else [Char.ofNat n])
  else
    String.ofList (points.map Char.ofNat)

/-- The rest of a string after its opening quote; `skip` characters are done. -/
def quotedRest (quote : Char) : Nat → List Char → Option (List Nat × Nat)
  | _, [] => none
  | skip + 1, _ :: cs => do
      let (points, size) ← quotedRest quote skip cs
      return (points, size + 1)
  | 0, c :: cs =>
      if c = quote then
        some ([], 1)
      else if c = '\\' then do
        let (front, taken) ← escape false cs
        let (points, size) ← quotedRest quote taken cs
        return (front ++ points, size + 1)
      else if c = '\n' || c = '\r' then
        none
      else do
        let (points, size) ← quotedRest quote 0 cs
        return (c.toNat :: points, size + 1)

/-- A stretch of template text. -/
structure TemplateText where
  /-- What it stands for, unless one of its escapes is broken. -/
  text : Option (List Nat)
  /-- Whether it ends the template, or opens a substitution. -/
  closed : Bool
  size : Nat

/-- Puts code points in front of template text. -/
def TemplateText.after (front : Option (List Nat)) (rest : TemplateText) :
    TemplateText :=
  let text := match front, rest.text with
    | some front, some points => some (front ++ points)
    | _, _ => none
  { rest with text := text, size := rest.size + 1 }

/-- Template text up to the closing quote or a substitution. -/
def templateRest : Nat → List Char → Option TemplateText
  | _, [] => none
  | skip + 1, _ :: cs => (templateRest skip cs).map (.after (some []))
  | 0, c :: cs =>
      if c = '\x60' then
        some ⟨some [], true, 1⟩
      else if c = '$' ∧ cs.head? = some '\x7b' then
        some ⟨some [], false, 2⟩
      else if c = '\\' then
        match escape true cs with
        | some (front, taken) =>
            (templateRest taken cs).map (.after (some front))
        | none => (templateRest 1 cs).map (.after none)
      else if c = '\r' then
        let taken := if cs.head? = some '\n' then 1 else 0
        (templateRest taken cs).map (.after (some [10]))
      else
        (templateRest 0 cs).map (.after (some [c.toNat]))

/-- The body of a regular expression, up to and with its closing slash. -/
def patternRest : (inClass escaped : Bool) → List Char → Option Nat
  | _, _, [] => none
  | inClass, escaped, c :: cs =>
      if isLineBreak c then none
      else if escaped then (patternRest inClass false cs).map (· + 1)
      else if c = '\\' then (patternRest inClass true cs).map (· + 1)
      else if c = '[' then (patternRest true false cs).map (· + 1)
      else if c = ']' then (patternRest false false cs).map (· + 1)
      else if c = '/' ∧ !inClass then some 1
      else (patternRest inClass false cs).map (· + 1)

/-- The size of a regular expression after its opening slash, with flags. -/
def patternSize (cs : List Char) : Option Nat := do
  let body ← patternRest false false cs
  let flags := (cs.drop body).takeWhile Text.isIdentifierPart
  let known := flags.all (fun c => "dgimsuvy".toList.contains c)
  if known && flags.eraseDups.length = flags.length then
    return body + flags.length
  else
    none

/-- A number as it is read. -/
inductive Numeral where
  /-- The text of its value, and the characters taken. -/
  | number (name : String) (size : Nat)
  | bigint (digits : String) (size : Nat)

/-- Whether separators stand only between digits. -/
def separatorsFit : List Char → Bool
  | [] => true
  | '_' :: _ => false
  | cs => fit cs
where
  /-- The rule for what follows a digit. -/
  fit : List Char → Bool
    | [] => true
    | ['_'] => false
    | '_' :: '_' :: _ => false
    | _ :: cs => fit cs

/-- A run of digits with separators: the digits, and the characters taken. -/
def digitRun (isDigit : Char → Bool) (cs : List Char) :
    Option (List Char × Nat) :=
  let run := cs.takeWhile (fun c => isDigit c || c = '_')
  if separatorsFit run then
    some (run.filter (· != '_'), run.length)
  else
    none

/-- The text of an integer as a binary floating-point number. -/
def integerName (n : Nat) : String :=
  (Decimal.ofRatio false n 1).positional

/-- An integer with a base letter such as `0x`, given what follows the letter. -/
def basedNumeral (base : Nat) (isDigit : Char → Bool) (cs : List Char) :
    Option Numeral := do
  let (digits, size) ← digitRun isDigit cs
  if digits.isEmpty then none
  else
    let value := Decimal.digitsValue base digits
    match cs.drop size with
    | 'n' :: _ =>
        return .bigint (String.ofList (Nat.toDigits 10 value)) (size + 3)
    | _ => return .number (integerName value) (size + 2)

/-- The exponent of a decimal: its sign, its digits and the characters taken. -/
def exponentRun (cs : List Char) : Option (Bool × List Char × Nat) :=
  match cs with
  | c :: rest =>
      if c = 'e' || c = 'E' then do
        let (negative, sign) := match rest with
          | '-' :: _ => (true, 1)
          | '+' :: _ => (false, 1)
          | _ => (false, 0)
        let (digits, size) ← digitRun Char.isDigit (rest.drop sign)
        if digits.isEmpty then none else return (negative, digits, size + sign + 1)
      else
        some (false, [], 0)
  | [] => some (false, [], 0)

/-- A decimal number with a fraction or an exponent, or a BigInt. -/
def decimalNumeral (cs : List Char) : Option Numeral := do
  let (whole, wholeSize) ← digitRun Char.isDigit cs
  match cs.drop wholeSize with
  | 'n' :: _ =>
      return .bigint
        (String.ofList (Nat.toDigits 10 (Decimal.digitsValue 10 whole)))
        (wholeSize + 1)
  | rest =>
      let (part, partSize) ← match rest with
        | '.' :: behind => do
            let (digits, size) ← digitRun Char.isDigit behind
            pure (digits, size + 1)
        | _ => some ([], 0)
      let (negative, exponent, exponentSize) ←
        exponentRun (rest.drop partSize)
      let value := Decimal.Scaled.ofDigits whole part negative exponent
      return .number (Decimal.Binary64.ofScaled false value).positional
        (wholeSize + partSize + exponentSize)

/-- A number whose digits follow a zero: octal if all of them are. -/
def zeroNumeral (cs : List Char) : Option Numeral :=
  let digits := cs.takeWhile Char.isDigit
  if digits.all isOctalDigit then
    some (.number (integerName (Decimal.digitsValue 8 digits)) digits.length)
  else
    match decimalNumeral cs with
    | some (.number name size) => some (.number name size)
    | _ => none

/-- The number at the front of the input. -/
def numeral (cs : List Char) : Option Numeral :=
  match cs with
  | '0' :: c :: rest =>
      if c = 'x' || c = 'X' then basedNumeral 16 isHexDigit rest
      else if c = 'o' || c = 'O' then basedNumeral 8 isOctalDigit rest
      else if c = 'b' || c = 'B' then
        basedNumeral 2 (fun d => d = '0' || d = '1') rest
      else if c.isDigit then zeroNumeral cs
      else if c = '_' then none
      else decimalNumeral cs
  | _ => decimalNumeral cs

end ComponentDocs.Source
