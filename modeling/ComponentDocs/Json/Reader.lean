import ComponentDocs.Json.Value

/-!
Reading JSON.

The reader takes the whole text or nothing. Nesting is bounded, integers that
do not fit into 64 bits are read as binary floating point, and so is a negative
zero.
-/

namespace ComponentDocs.Json

/-- The four characters that may stand between tokens. -/
def isSpace (c : Char) : Bool :=
  c = ' ' || c = '\t' || c = '\n' || c = '\r'

/-- The input without leading space. -/
def skipSpace (cs : List Char) : List Char :=
  cs.dropWhile isSpace

/-- The value of a hexadecimal digit. -/
def hexValue? (c : Char) : Option Nat :=
  if c.isDigit then some (c.toNat - '0'.toNat)
  else if 'a' ≤ c ∧ c ≤ 'f' then some (c.toNat - 'a'.toNat + 10)
  else if 'A' ≤ c ∧ c ≤ 'F' then some (c.toNat - 'A'.toNat + 10)
  else none

/-- Four hexadecimal digits. -/
def readHex4 : List Char → Option (Nat × List Char)
  | a :: b :: c :: d :: rest => do
      let a ← hexValue? a
      let b ← hexValue? b
      let c ← hexValue? c
      let d ← hexValue? d
      return (((a * 16 + b) * 16 + c) * 16 + d, rest)
  | _ => none

/-- The character of a single-letter escape. -/
def simpleEscape? (c : Char) : Option Char :=
  match c with
  | '"' => some '"'
  | '\\' => some '\\'
  | '/' => some '/'
  | 'b' => some (Char.ofNat 8)
  | 'f' => some (Char.ofNat 12)
  | 'n' => some '\n'
  | 'r' => some '\r'
  | 't' => some '\t'
  | _ => none

/-- What stands after the `u` of an escape: one character, or two halves of one. -/
def readUnicode (cs : List Char) : Option (Char × List Char) := do
  let (high, rest) ← readHex4 cs
  if 0xD800 ≤ high ∧ high < 0xDC00 then
    match rest with
    | '\\' :: 'u' :: rest =>
        let (low, rest) ← readHex4 rest
        if 0xDC00 ≤ low ∧ low < 0xE000 then
          return (Char.ofNat (0x10000 + (high - 0xD800) * 0x400 + (low - 0xDC00)),
            rest)
        else
          none
    | _ => none
  else if 0xDC00 ≤ high ∧ high < 0xE000 then
    none
  else
    return (Char.ofNat high, rest)

/-- The characters of a string up to its closing quote. -/
def readStringChars : Nat → List Char → Option (List Char × List Char)
  | 0, _ => none
  | _ + 1, [] => none
  | _ + 1, '"' :: rest => some ([], rest)
  | n + 1, '\\' :: 'u' :: rest => do
      let (c, rest) ← readUnicode rest
      let (cs, rest) ← readStringChars n rest
      return (c :: cs, rest)
  | n + 1, '\\' :: e :: rest => do
      let c ← simpleEscape? e
      let (cs, rest) ← readStringChars n rest
      return (c :: cs, rest)
  | n + 1, c :: rest =>
      if c.toNat < 32 || c = '\\' then none
      else do
        let (cs, rest) ← readStringChars n rest
        return (c :: cs, rest)

/-- A string whose opening quote has been read. -/
def readString (cs : List Char) : Option (String × List Char) :=
  (readStringChars (cs.length + 1) cs).map
    (fun (chars, rest) => (String.ofList chars, rest))

/-- Digits, at least one of them. -/
def readDigits (cs : List Char) : Option (List Char × List Char) :=
  match cs.span Char.isDigit with
  | ([], _) => none
  | (digits, rest) => some (digits, rest)

/-- An exponent, if one follows. -/
def readExponent (cs : List Char) :
    Option (Option (Bool × List Char) × List Char) :=
  match cs with
  | e :: rest =>
      if e = 'e' || e = 'E' then do
        let (negative, rest) := match rest with
          | '-' :: rest => (true, rest)
          | '+' :: rest => (false, rest)
          | rest => (false, rest)
        let (digits, rest) ← readDigits rest
        return (some (negative, digits), rest)
      else
        some (none, cs)
  | [] => some (none, [])

/--
The number that a sign and the digits of its parts stand for, unless it is too
large.
-/
def numberOf (negative : Bool) (whole : List Char) (part : Option (List Char))
    (exponent : Option (Bool × List Char)) : Option Json :=
  let value := Decimal.digitsValue 10 whole
  let fits := if negative then value ≠ 0 && Decimal.fitsSigned (-value)
    else Decimal.fitsUnsigned value
  if part.isNone ∧ exponent.isNone ∧ fits then
    some (.integer (if negative then -(value : Int) else value))
  else
    let (down, digits) := exponent.getD (false, [])
    let scaled := Decimal.Scaled.ofDigits whole (part.getD []) down digits
    match Decimal.Binary64.ofScaled negative scaled with
    | .infinite _ => none
    | value => some (.real value)

/-- A number; a leading zero stands alone. -/
def readNumber (cs : List Char) : Option (Json × List Char) := do
  let (negative, cs) := match cs with
    | '-' :: rest => (true, rest)
    | rest => (false, rest)
  let (whole, rest) ← match cs with
    | '0' :: rest => some (['0'], rest)
    | _ => readDigits cs
  let (part, rest) ← match rest with
    | '.' :: rest => (readDigits rest).map (fun (ds, rest) => (some ds, rest))
    | _ => some (none, rest)
  let (exponent, rest) ← readExponent rest
  return (← numberOf negative whole part exponent, rest)

mutual

/-- A value after optional space. `room` bounds the nesting. -/
def readValue : Nat → Nat → List Char → Option (Json × List Char)
  | 0, _, _ => none
  | fuel + 1, room, cs =>
      match skipSpace cs with
      | 'n' :: 'u' :: 'l' :: 'l' :: rest => some (.null, rest)
      | 't' :: 'r' :: 'u' :: 'e' :: rest => some (.bool true, rest)
      | 'f' :: 'a' :: 'l' :: 's' :: 'e' :: rest => some (.bool false, rest)
      | '"' :: rest => (readString rest).map (fun (s, rest) => (.string s, rest))
      | '[' :: rest =>
          match room with
          | 0 => none
          | room + 1 =>
              match skipSpace rest with
              | ']' :: rest => some (.array [], rest)
              | rest => (readItems fuel room rest).map
                  (fun (items, rest) => (.array items, rest))
      | '{' :: rest =>
          match room with
          | 0 => none
          | room + 1 =>
              match skipSpace rest with
              | '}' :: rest => some (.object [], rest)
              | rest => (readFields fuel room rest).map
                  (fun (fields, rest) => (.object fields, rest))
      | rest => readNumber rest

/-- Array items up to the closing bracket. -/
def readItems : Nat → Nat → List Char → Option (List Json × List Char)
  | 0, _, _ => none
  | fuel + 1, room, cs => do
      let (item, rest) ← readValue fuel room cs
      match skipSpace rest with
      | ',' :: rest =>
          let (items, rest) ← readItems fuel room rest
          return (item :: items, rest)
      | ']' :: rest => return ([item], rest)
      | _ => none

/-- Object fields up to the closing brace. -/
def readFields : Nat → Nat → List Char →
    Option (List (String × Json) × List Char)
  | 0, _, _ => none
  | fuel + 1, room, cs =>
      match skipSpace cs with
      | '"' :: rest => do
          let (name, rest) ← readString rest
          match skipSpace rest with
          | ':' :: rest =>
              let (value, rest) ← readValue fuel room rest
              match skipSpace rest with
              | ',' :: rest =>
                  let (fields, rest) ← readFields fuel room rest
                  return ((name, value) :: fields, rest)
              | '}' :: rest => return ([(name, value)], rest)
              | _ => none
          | _ => none
      | _ => none

end

/-- How deep arrays and objects may nest. -/
def maxDepth : Nat := 127

/-- Reads a text that holds one value and nothing else but space. -/
def read? (text : String) : Option Json :=
  let cs := text.toList
  match readValue (2 * cs.length + 2) maxDepth cs with
  | some (value, rest) => if (skipSpace rest).isEmpty then some value else none
  | none => none

end ComponentDocs.Json
