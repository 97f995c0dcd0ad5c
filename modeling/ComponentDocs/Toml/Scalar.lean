import ComponentDocs.Json.Value
import ComponentDocs.Text.Blank

/-!
Strings, numbers, dates and keys of TOML.

Readers take the characters that follow and answer what they read and the rest.
Values are JSON values; a date is an object with one field.
-/

namespace ComponentDocs.Toml

/-- Spaces and tabs. -/
def isBlank (c : Char) : Bool := c = ' ' || c = '\t'

/-- The input without leading spaces and tabs. -/
def skipBlank (cs : List Char) : List Char := cs.dropWhile isBlank

/-- Control characters other than a tab. -/
def isControl (c : Char) : Bool :=
  (c.toNat < 0x20 && c != '\t') || c.toNat = 0x7F

/-- The input behind a line end. -/
def newline? : List Char → Option (List Char)
  | '\n' :: rest => some rest
  | '\r' :: '\n' :: rest => some rest
  | _ => none

/-- The input behind a comment, if one starts here. -/
def skipComment (cs : List Char) : Option (List Char) :=
  match cs with
  | '#' :: rest =>
      let rest := rest.dropWhile (fun c => !isControl c)
      match rest with
      | [] => some []
      | _ => if (newline? rest).isSome then some rest else none
  | _ => some cs

/-! ### Strings -/

/-- The value of hexadecimal digits, if there are `count` of them. -/
def hexPrefix (count : Nat) (cs : List Char) : Option Nat :=
  let digits := cs.take count
  let isHex (c : Char) :=
    c.isDigit || ('a' ≤ c && c ≤ 'f') || ('A' ≤ c && c ≤ 'F')
  if digits.length = count ∧ digits.all isHex then
    some (Decimal.digitsValue 16 digits)
  else
    none

/-- The character of a code point, if it is one. -/
def charOf? (n : Nat) : Option Char :=
  if n.isValidChar then some (Char.ofNat n) else none

/-- The escape behind a backslash. -/
def readEscape : List Char → Option (Char × List Char)
  | 'b' :: rest => some (Char.ofNat 8, rest)
  | 't' :: rest => some ('\t', rest)
  | 'n' :: rest => some ('\n', rest)
  | 'f' :: rest => some (Char.ofNat 12, rest)
  | 'r' :: rest => some ('\r', rest)
  | '"' :: rest => some ('"', rest)
  | '\\' :: rest => some ('\\', rest)
  | 'u' :: rest => do
      let c ← charOf? (← hexPrefix 4 rest)
      return (c, rest.drop 4)
  | 'U' :: rest => do
      let c ← charOf? (← hexPrefix 8 rest)
      return (c, rest.drop 8)
  | _ => none

/-- The rest of a string in double quotes. -/
def basicRest : Nat → List Char → Option (List Char × List Char)
  | 0, _ => none
  | n + 1, cs =>
      match cs with
      | [] => none
      | '"' :: rest => some ([], rest)
      | '\\' :: rest => do
          let (c, rest) ← readEscape rest
          let (text, rest) ← basicRest n rest
          return (c :: text, rest)
      | c :: rest =>
          if isControl c then none
          else do
            let (text, rest) ← basicRest n rest
            return (c :: text, rest)

/-- The rest of a string in single quotes. -/
def literalRest (cs : List Char) : Option (List Char × List Char) :=
  let text := cs.takeWhile (fun c => c != '\x27' && !isControl c)
  match cs.drop text.length with
  | '\x27' :: rest => some (text, rest)
  | _ => none

/-- Quotes at the end of a string of several lines: those that belong to it. -/
def closingQuotes (quote : Char) (cs : List Char) : Option (List Char × List Char) :=
  let count := (cs.takeWhile (· = quote)).length
  if count < 3 then none
  else
    let extra := min (count - 3) 2
    some (List.replicate extra quote, cs.drop (extra + 3))

/-- The input behind an escaped line end and the blanks that follow it. -/
def joinedLine? (cs : List Char) : Option (List Char) := do
  let rest ← newline? (skipBlank cs)
  return rest.dropWhile (fun c => isBlank c || c = '\n' || c = '\r')

/-- The rest of a string of several lines; escapes only in double quotes. -/
def multilineRest (quote : Char) : Nat → List Char → Option (List Char × List Char)
  | 0, _ => none
  | n + 1, cs =>
      match closingQuotes quote cs with
      | some result => some result
      | none =>
          match newline? cs with
          | some rest => do
              let (text, rest) ← multilineRest quote n rest
              return ('\n' :: text, rest)
          | none =>
              match cs with
              | [] => none
              | c :: rest =>
                  if c = '\\' ∧ quote = '"' then
                    match joinedLine? rest with
                    | some rest => multilineRest quote n rest
                    | none => do
                        let (c, rest) ← readEscape rest
                        let (text, rest) ← multilineRest quote n rest
                        return (c :: text, rest)
                  else if isControl c then none
                  else do
                    let (text, rest) ← multilineRest quote n rest
                    return (c :: text, rest)

/-- A string of one line. -/
def readLineString (cs : List Char) : Option (String × List Char) :=
  match cs with
  | '"' :: rest =>
      (basicRest cs.length rest).map (fun (text, rest) => (String.ofList text, rest))
  | '\x27' :: rest =>
      (literalRest rest).map (fun (text, rest) => (String.ofList text, rest))
  | _ => none

/-- A string of one line or several. -/
def readString (cs : List Char) : Option (String × List Char) :=
  let multiline (quote : Char) (rest : List Char) :=
    let body := (newline? rest).getD rest
    (multilineRest quote (cs.length + 1) body).map
      (fun (text, rest) => (String.ofList text, rest))
  match cs with
  | '"' :: '"' :: '"' :: rest => multiline '"' rest
  | '\x27' :: '\x27' :: '\x27' :: rest => multiline '\x27' rest
  | _ => readLineString cs

/-! ### Numbers -/

/-- Digits with single underscores between them. -/
def digits? (isDigit : Char → Bool) (cs : List Char) : Option (List Char) :=
  let groups := Text.splitAtChar '_' cs
  if groups.all (fun group => !group.isEmpty && group.all isDigit) then
    some groups.flatten
  else
    none

/-- Decimal digits of an integral part, without leading zeros. -/
def wholeDigits? (cs : List Char) : Option (List Char) := do
  let digits ← digits? Char.isDigit cs
  if digits.head? = some '0' ∧ digits.length ≠ 1 then none else return digits

/-- A sign and what follows it. -/
def splitSign : List Char → Bool × List Char
  | '-' :: rest => (true, rest)
  | '+' :: rest => (false, rest)
  | rest => (false, rest)

/-- An integer within 64 bits. -/
def inRange? (value : Int) : Option Json :=
  if Decimal.fitsSigned value then some (.integer value) else none

/-- The integer that a word stands for. -/
def integer? (word : List Char) : Option Json :=
  let based (base : Nat) (isDigit : Char → Bool) (cs : List Char) := do
    let digits ← digits? isDigit cs
    inRange? (Decimal.digitsValue base digits)
  match word with
  | '0' :: 'x' :: rest =>
      based 16 (fun c => c.isDigit || ('a' ≤ c && c ≤ 'f') || ('A' ≤ c && c ≤ 'F'))
        rest
  | '0' :: 'o' :: rest => based 8 (fun c => '0' ≤ c && c ≤ '7') rest
  | '0' :: 'b' :: rest => based 2 (fun c => c = '0' || c = '1') rest
  | _ => do
      let (negative, rest) := splitSign word
      let digits ← wholeDigits? rest
      let value : Int := Decimal.digitsValue 10 digits
      inRange? (if negative then -value else value)

/-- An exponent's sign and digits. -/
def exponent? (cs : List Char) : Option (Bool × List Char) := do
  let (negative, rest) := splitSign cs
  return (negative, ← digits? Char.isDigit rest)

/-- The floating-point number that a word stands for. -/
def float? (word : List Char) : Option Json := do
  let (negative, rest) := splitSign word
  if rest = ['i', 'n', 'f'] then
    return .real (.infinite negative)
  if rest = ['n', 'a', 'n'] then
    return .real .notANumber
  let isMark (c : Char) := c = 'e' || c = 'E'
  let body := rest.takeWhile (fun c => !isMark c)
  let (down, exponent) ← match rest.drop body.length with
    | [] => some (false, [])
    | _ :: behind => exponent? behind
  let whole := body.takeWhile (· != '.')
  let part ← match body.drop whole.length with
    | [] => if rest.length = body.length then none else some []
    | _ :: behind => digits? Char.isDigit behind
  let scaled := Decimal.Scaled.ofDigits (← wholeDigits? whole) part down exponent
  match Decimal.Binary64.ofScaled negative scaled with
  | .infinite false => none
  | value => return .real value

/-! ### Dates -/

/-- The number that two digits stand for. -/
def twoDigits? : List Char → Option (Nat × List Char)
  | a :: b :: rest =>
      if a.isDigit && b.isDigit then some (Decimal.digitsValue 10 [a, b], rest)
      else none
  | _ => none

/-- The days of a month. -/
def daysIn (year month : Nat) : Nat :=
  let leap := year % 4 = 0 ∧ (year % 100 ≠ 0 ∨ year % 400 = 0)
  if month = 2 then (if leap then 29 else 28)
  else if [4, 6, 9, 11].contains month then 30
  else 31

/-- The input behind a date. -/
def date? (cs : List Char) : Option (List Char) := do
  let (high, cs) ← twoDigits? cs
  let (low, cs) ← twoDigits? cs
  match cs with
  | '-' :: cs =>
      let (month, cs) ← twoDigits? cs
      match cs with
      | '-' :: cs =>
          let (day, cs) ← twoDigits? cs
          if 1 ≤ month ∧ month ≤ 12 ∧ 1 ≤ day ∧
              day ≤ daysIn (high * 100 + low) month then
            return cs
          else
            none
      | _ => none
  | _ => none

/-- The input behind a time of day. -/
def time? (cs : List Char) : Option (List Char) := do
  let (hour, cs) ← twoDigits? cs
  match cs with
  | ':' :: cs =>
      let (minute, cs) ← twoDigits? cs
      match cs with
      | ':' :: cs =>
          let (second, cs) ← twoDigits? cs
          if hour ≤ 23 ∧ minute ≤ 59 ∧ second ≤ 60 then
            match cs with
            | '.' :: rest =>
                let digits := rest.takeWhile Char.isDigit
                if digits.isEmpty then none else return rest.drop digits.length
            | _ => return cs
          else
            none
      | _ => none
  | _ => none

/-- Whether a word is nothing or an offset from universal time. -/
def isOffset (cs : List Char) : Bool :=
  match cs with
  | [] | ['Z'] | ['z'] => true
  | sign :: rest =>
      (sign = '+' || sign = '-') &&
        (match twoDigits? rest with
        | some (hour, ':' :: rest) =>
            hour ≤ 23 && (match twoDigits? rest with
              | some (minute, []) => minute ≤ 59
              | _ => false)
        | _ => false)

/-- Whether a word is a date, a time of day, or both. -/
def isDateTime (word : List Char) : Bool :=
  match date? word with
  | some [] => true
  | some (mark :: rest) =>
      (mark = 'T' || mark = 't' || mark = ' ') &&
        (match time? rest with
        | some rest => isOffset rest
        | none => false)
  | none => time? word = some []

/-- A date as a value. -/
def dateJson (word : List Char) : Json :=
  .object [("$__toml_private_datetime", .string (String.ofList word))]

/-- Characters that numbers and dates are made of. -/
def isWordChar (c : Char) : Bool :=
  c.isAlphanum || ['_', '+', '-', '.', ':'].contains c

/-- The word of a number or a date; a blank may stand before the time. -/
def readWord (cs : List Char) : List Char × List Char :=
  let word := cs.takeWhile isWordChar
  let rest := cs.drop word.length
  match rest with
  | ' ' :: c :: more =>
      if date? word = some [] ∧ c.isDigit then
        let time := (c :: more).takeWhile isWordChar
        (word ++ ' ' :: time, (c :: more).drop time.length)
      else
        (word, rest)
  | _ => (word, rest)

/-- A number, a date or a truth value. -/
def readScalar (cs : List Char) : Option (Json × List Char) :=
  let (word, rest) := readWord cs
  if word = ['t', 'r', 'u', 'e'] then some (.bool true, rest)
  else if word = ['f', 'a', 'l', 's', 'e'] then some (.bool false, rest)
  else if isDateTime word then some (dateJson word, rest)
  else
    match integer? word with
    | some value => some (value, rest)
    | none => (float? word).map (·, rest)

/-! ### Keys -/

/-- A key without dots. -/
def readSimpleKey (cs : List Char) : Option (String × List Char) :=
  let bare := cs.takeWhile (fun c => c.isAlphanum || c = '_' || c = '-')
  if bare.isEmpty then readLineString cs
  else some (String.ofList bare, cs.drop bare.length)

/-- A key with dots, as a path. -/
def readKey : Nat → List Char → Option (List String × List Char)
  | 0, _ => none
  | n + 1, cs => do
      let (key, rest) ← readSimpleKey (skipBlank cs)
      match skipBlank rest with
      | '.' :: rest =>
          let (path, rest) ← readKey n rest
          return (key :: path, rest)
      | rest => return ([key], rest)

end ComponentDocs.Toml
