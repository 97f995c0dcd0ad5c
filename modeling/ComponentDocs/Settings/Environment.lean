import ComponentDocs.Settings.Value
import ComponentDocs.Toml.Scalar

/-!
Settings from environment variables.

The name behind the prefix is the setting's name, in any letter case; dots in
it stand for nested tables. The value is read as data where that is possible,
and else it is a text.
-/

namespace ComponentDocs.Environment

/-- Blanks around values. -/
def isSpace (c : Char) : Bool :=
  c = ' ' || c = '\t' || c = '\n' || c = '\r' || c.toNat = 0x0C

/-- The input without leading blanks. -/
def skipSpace (cs : List Char) : List Char := cs.dropWhile isSpace

/-- Characters of a text without quotes. -/
def isPlain (c : Char) : Bool :=
  !([',', '\x7b', '\x7d', '[', ']'].contains c)

/-! ### Numbers -/

/-- A non-empty run of digits. -/
def allDigits (cs : List Char) : Bool :=
  !cs.isEmpty && cs.all Char.isDigit

/-- An unsigned integer of 64 bits, perhaps with a plus sign. -/
def unsigned? (cs : List Char) : Option Nat :=
  let digits := match cs with
    | '+' :: rest => rest
    | _ => cs
  let value := Decimal.digitsValue 10 digits
  if allDigits digits && Decimal.fitsUnsigned value then some value else none

/-- A signed integer of 64 bits. -/
def signed? (cs : List Char) : Option Int :=
  let (negative, digits) := Toml.splitSign cs
  let value : Int := Decimal.digitsValue 10 digits
  let value := if negative then -value else value
  if allDigits digits && Decimal.fitsSigned value then some value
  else none

/-- A floating-point number with a point in it. -/
def float? (cs : List Char) : Option Decimal.Binary64 := do
  let (negative, rest) := Toml.splitSign cs
  let isMark (c : Char) := c = 'e' || c = 'E'
  let body := rest.takeWhile (fun c => !isMark c)
  let whole := body.takeWhile (· != '.')
  let part := (body.drop whole.length).drop 1
  let (down, exponent) ← match rest.drop body.length with
    | [] => some (false, [])
    | _ :: behind =>
        let (down, digits) := Toml.splitSign behind
        if allDigits digits then some (down, digits) else none
  if body.contains '.' && allDigits (whole ++ part) then
    return .ofScaled negative (.ofDigits whole part down exponent)
  else
    none

/-- What a text without quotes stands for. -/
def plainScalar (cs : List Char) : Scalar :=
  let number : Option Scalar :=
    match if cs.contains '.' then float? cs else none with
    | some value => some (.float value)
    | none =>
        match unsigned? cs with
        | some value => some (.unsigned value)
        | none => (signed? cs).map .signed
  number.getD (.text (String.ofList cs))

/-! ### Values -/

/-- The rest of a text in double quotes. -/
def quotedRest (cs : List Char) : Option (String × List Char) :=
  (Toml.basicRest (cs.length + 1) cs).map
    (fun (text, rest) => (String.ofList text, rest))

/-- The key of a pair in braces. -/
def readKey (cs : List Char) : Option (String × List Char) :=
  match cs with
  | '"' :: rest => quotedRest rest
  | _ =>
      let name := cs.takeWhile (fun c => c.isAlphanum || c = '_' || c = '-')
      if name.isEmpty then none
      else some (String.ofList name, cs.drop name.length)

/-- Drops a word from the front. -/
def dropWord? (word : String) (cs : List Char) : Option (List Char) :=
  if word.toList.isPrefixOf cs then some (cs.drop word.length) else none

mutual

/-- A value with blanks around it. -/
def readValue : Nat → List Char → Option (Setting × List Char)
  | 0, _ => none
  | n + 1, cs => do
      let (value, rest) ← readBare n (skipSpace cs)
      return (value, skipSpace rest)

/-- A value without blanks in front of it. -/
def readBare : Nat → List Char → Option (Setting × List Char)
  | 0, _ => none
  | n + 1, cs =>
      let scalar (value : Scalar) : Setting := .scalar .environment value
      match dropWord? "true" cs, dropWord? "false" cs with
      | some rest, _ => some (scalar (.bool true), rest)
      | none, some rest => some (scalar (.bool false), rest)
      | none, none =>
          match cs with
          | '\x7b' :: rest => do
              let (fields, rest) ← readFields n [] rest
              return (.table .environment fields, rest)
          | '[' :: rest => do
              let (items, rest) ← readItems n rest
              return (.list .environment items, rest)
          | '"' :: rest => do
              let (text, rest) ← quotedRest rest
              return (scalar (.text text), rest)
          | '\x27' :: c :: '\x27' :: rest => some (scalar (.character c), rest)
          | '\x27' :: _ => none
          | _ =>
              let plain := cs.takeWhile isPlain
              some (scalar (plainScalar (Text.trim plain)), cs.drop plain.length)

/-- The items of a list up to its end. -/
def readItems : Nat → List Char → Option (List Setting × List Char)
  | 0, _ => none
  | n + 1, cs =>
      match cs with
      | ']' :: rest => some ([], rest)
      | _ => do
          let (item, rest) ← readValue n cs
          match rest with
          | ',' :: rest =>
              let (items, rest) ← readItems n rest
              return (item :: items, rest)
          | ']' :: rest => return ([item], rest)
          | _ => none

/-- The fields of a table up to its end. -/
def readFields : Nat → List (String × Setting) → List Char →
    Option (List (String × Setting) × List Char)
  | 0, _, _ => none
  | n + 1, fields, cs =>
      match cs with
      | '\x7d' :: rest => some (fields, rest)
      | _ => do
          let (name, rest) ← readKey (skipSpace cs)
          match skipSpace rest with
          | '=' :: rest =>
              let (value, rest) ← readValue n rest
              let fields := Setting.setField fields name value
              match rest with
              | ',' :: rest => readFields n fields rest
              | '\x7d' :: rest => return (fields, rest)
              | _ => none
          | _ => none

end

/-- The setting that a variable's value stands for. -/
def settingOf (value : String) : Setting :=
  let chars := value.toList
  match readValue (3 * chars.length + 3) chars with
  | some (setting, []) => setting
  | _ => .scalar .environment (.text value)

/-! ### Variables -/

/-- The prefix of the variables that are settings. -/
def namePrefix : String := "propdoc_"

/-- The setting's name that a variable has behind the prefix. -/
def settingName? (label : String) : Option String :=
  let name := Text.lowerAscii label
  if namePrefix.toList.isPrefixOf name.toList ∧ namePrefix.length < name.length then
    some (String.ofList (name.toList.drop namePrefix.length))
  else
    none

/-- A setting nested in tables along a path; an empty name ends the path. -/
def nest (value : Setting) : List String → Setting
  | [] => value
  | name :: names =>
      if name.isEmpty then value
      else .table .environment [(name, nest value names)]

/-- The settings that variables give, later ones above earlier ones. -/
def settings (environment : List (String × String)) : Setting :=
  environment.foldl
    (fun below (label, value) =>
      match settingName? label with
      | none => below
      | some name =>
          match nest (settingOf value) (Text.fields '.' name) with
          | .table origin fields => below.merge (.table origin fields)
          | _ => below)
    (.table .environment [])

end ComponentDocs.Environment
