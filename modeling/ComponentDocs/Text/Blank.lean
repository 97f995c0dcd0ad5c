/-!
White space in running text, and cutting it off.

Trimming works on lists of characters, so that each fact about it is a fact
about `dropWhile`; the functions on strings only wrap it.
-/

namespace ComponentDocs.Text

/-- The characters with the Unicode property `White_Space`. -/
def isBlank (c : Char) : Bool :=
  let n := c.toNat
  (9 ≤ n && n ≤ 13) || n == 0x20 || n == 0x85 || n == 0xA0 || n == 0x1680 ||
    (0x2000 ≤ n && n ≤ 0x200A) || n == 0x2028 || n == 0x2029 ||
    n == 0x202F || n == 0x205F || n == 0x3000

/-- Drops the leading characters that satisfy `p`. -/
def trimStartWhile (p : Char → Bool) (cs : List Char) : List Char :=
  cs.dropWhile p

/-- Drops the trailing characters that satisfy `p`. -/
def trimEndWhile (p : Char → Bool) (cs : List Char) : List Char :=
  (cs.reverse.dropWhile p).reverse

/-- Drops leading blanks. -/
def trimStart (cs : List Char) : List Char :=
  trimStartWhile isBlank cs

/-- Drops trailing blanks. -/
def trimEnd (cs : List Char) : List Char :=
  trimEndWhile isBlank cs

/-- Drops blanks on both sides. -/
def trim (cs : List Char) : List Char :=
  trimEnd (trimStart cs)

/-- A string without the blanks around it. -/
def trimmed (s : String) : String :=
  String.ofList (trim s.toList)

/-- Whether `needle` starts somewhere in `cs`. -/
def occursIn (needle : List Char) : List Char → Bool
  | [] => needle.isEmpty
  | c :: cs => needle.isPrefixOf (c :: cs) || occursIn needle cs

/-- Whether the string `s` holds `needle` as a substring. -/
def holds (s needle : String) : Bool :=
  occursIn needle.toList s.toList

/-- The pieces of `cs` between occurrences of `sep`; there is always one. -/
def splitAtChar (sep : Char) : List Char → List (List Char)
  | [] => [[]]
  | c :: cs =>
      if c = sep then
        [] :: splitAtChar sep cs
      else
        match splitAtChar sep cs with
        | [] => [[c]]
        | piece :: pieces => (c :: piece) :: pieces

/-- The texts between occurrences of `sep` in a string. -/
def fields (sep : Char) (s : String) : List String :=
  (splitAtChar sep s.toList).map String.ofList

/-- The lower-case form of an ASCII letter; other characters stay. -/
def lowerAscii (s : String) : String :=
  String.ofList (s.toList.map Char.toLower)

/-- The upper-case form of an ASCII letter; other characters stay. -/
def upperAscii (s : String) : String :=
  String.ofList (s.toList.map Char.toUpper)

end ComponentDocs.Text
