import ComponentDocs.Json.Value

/-!
Writing JSON, on one line or indented by two spaces a level.

Strings escape quotes, backslashes and control characters and nothing else.
An empty array or object is written without a line break in both layouts.
-/

namespace ComponentDocs.Json

/-- The digit of a number below sixteen. -/
def hexDigit (n : Nat) : Char :=
  if n < 10 then Char.ofNat ('0'.toNat + n) else Char.ofNat ('a'.toNat + n - 10)

/-- One character inside a string literal. -/
def escapeChar (c : Char) : List Char :=
  if c = '"' then ['\\', '"']
  else if c = '\\' then ['\\', '\\']
  else if c.toNat = 8 then ['\\', 'b']
  else if c.toNat = 9 then ['\\', 't']
  else if c.toNat = 10 then ['\\', 'n']
  else if c.toNat = 12 then ['\\', 'f']
  else if c.toNat = 13 then ['\\', 'r']
  else if c.toNat < 32 then
    ['\\', 'u', '0', '0', hexDigit (c.toNat / 16), hexDigit (c.toNat % 16)]
  else [c]

/-- A string literal with its quotes. -/
def stringChars (s : String) : List Char :=
  '"' :: s.toList.flatMap escapeChar ++ ['"']

/-- The text of an integer. -/
def integerChars (n : Int) : List Char :=
  match n with
  | .ofNat n => Nat.toDigits 10 n
  | .negSucc n => '-' :: Nat.toDigits 10 (n + 1)

/-- The text of a value without parts. -/
def scalarChars : Json → List Char
  | .null => "null".toList
  | .bool true => "true".toList
  | .bool false => "false".toList
  | .integer n => integerChars n
  | .real x => x.pointed.toList
  | .string s => stringChars s
  | .array _ => "[]".toList
  | .object _ => "\x7b\x7d".toList

mutual

/-- A value on one line, without spaces. -/
def compactChars : Json → List Char
  | .array items => '[' :: compactItems items ++ [']']
  | .object fields => '{' :: compactFields fields ++ ['}']
  | value => scalarChars value

/-- Array items with commas between them. -/
def compactItems : List Json → List Char
  | [] => []
  | [item] => compactChars item
  | item :: items => compactChars item ++ ',' :: compactItems items

/-- Object fields with commas between them. -/
def compactFields : List (String × Json) → List Char
  | [] => []
  | [(name, value)] => stringChars name ++ ':' :: compactChars value
  | (name, value) :: fields =>
      stringChars name ++ ':' :: compactChars value ++
        ',' :: compactFields fields

end

/-- A line break and the indentation of a level. -/
def newline (level : Nat) : List Char :=
  '\n' :: List.replicate (2 * level) ' '

mutual

/-- A value whose own line is indented by `level` steps. -/
def prettyChars (level : Nat) : Json → List Char
  | .array [] => "[]".toList
  | .array items =>
      '[' :: prettyItems (level + 1) items ++ newline level ++ [']']
  | .object [] => "\x7b\x7d".toList
  | .object fields =>
      '{' :: prettyFields (level + 1) fields ++ newline level ++ ['}']
  | value => scalarChars value

/-- Array items, each on a line of its own. -/
def prettyItems (level : Nat) : List Json → List Char
  | [] => []
  | [item] => newline level ++ prettyChars level item
  | item :: items =>
      newline level ++ prettyChars level item ++ ',' :: prettyItems level items

/-- Object fields, each on a line of its own. -/
def prettyFields (level : Nat) : List (String × Json) → List Char
  | [] => []
  | [(name, value)] =>
      newline level ++ stringChars name ++ ':' :: ' ' ::
        prettyChars level value
  | (name, value) :: fields =>
      newline level ++ stringChars name ++ ':' :: ' ' ::
        prettyChars level value ++ ',' :: prettyFields level fields

end

/-- How a document is laid out. -/
inductive Layout where
  | compact
  | pretty
deriving Repr, DecidableEq, Inhabited

/-- The text of a value in a layout. -/
def render (layout : Layout) (value : Json) : String :=
  match layout with
  | .compact => String.ofList (compactChars value)
  | .pretty => String.ofList (prettyChars 0 value)

end ComponentDocs.Json
