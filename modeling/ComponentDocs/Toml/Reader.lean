import ComponentDocs.Toml.Scalar

/-!
Reading TOML documents.

A table may be opened by a header only once. Dotted keys open tables on their
way, but only such tables as they have opened themselves. Inline tables and
arrays are closed as soon as they are written.
-/

namespace ComponentDocs.Toml

/-- What stands under a key while a document is read. -/
inductive Node where
  /-- A value that does not change any more. -/
  | value (value : Json)
  /--
  A table. It is `implicit` while no header has opened it, and `dotted` if a
  dotted key has.
  -/
  | table (implicit dotted : Bool) (entries : List (String × Node))
  /-- The tables under headers in double brackets, the latest last. -/
  | tables (items : List (List (String × Node)))

/-- The entries of a table. -/
abbrev Entries := List (String × Node)

mutual

/-- A node as a value. -/
def Node.toJson : Node → Json
  | .value value => value
  | .table _ _ entries => .object (jsonOfEntries entries)
  | .tables items => .array (jsonOfTables items)

/-- Entries as fields. -/
def jsonOfEntries : List (String × Node) → List (String × Json)
  | [] => []
  | (key, node) :: entries => (key, node.toJson) :: jsonOfEntries entries

/-- Tables as objects. -/
def jsonOfTables : List (List (String × Node)) → List Json
  | [] => []
  | entries :: tables => .object (jsonOfEntries entries) :: jsonOfTables tables

end

namespace Entries

/-- The node under a key. -/
def find? (entries : Entries) (key : String) : Option Node :=
  (List.find? (fun entry => entry.1 = key) entries).map Prod.snd

/-- Sets the node under a key. -/
def set (entries : Entries) (key : String) (node : Node) : Entries :=
  List.filter (fun entry => entry.1 != key) entries ++ [(key, node)]

/-- Sets a value under a dotted key that is not there yet. -/
def put (value : Json) : List String → Entries → Option Entries
  | [], _ => none
  | [key], entries =>
      match entries.find? key with
      | some _ => none
      | none => some (entries.set key (.value value))
  | key :: path, entries =>
      match entries.find? key with
      | none => do
          let inner ← put value path []
          return entries.set key (.table true true inner)
      | some (.table true dotted inner) =>
          if path.length = 1 ∧ !dotted then none
          else do
            let inner ← put value path inner
            return entries.set key (.table true dotted inner)
      | some _ => none

/-- Opens the table of a header; one in double brackets is always new. -/
def openTable (isArray : Bool) : List String → Entries → Option Entries
  | [], _ => none
  | [key], entries =>
      match isArray, entries.find? key with
      | true, none => some (entries.set key (.tables [[]]))
      | true, some (.tables items) => some (entries.set key (.tables (items ++ [[]])))
      | false, none => some (entries.set key (.table false false []))
      | false, some (.table true false inner) =>
          some (entries.set key (.table false false inner))
      | _, some _ => none
  | key :: path, entries =>
      match entries.find? key with
      | none => do
          let inner ← openTable isArray path []
          return entries.set key (.table true false inner)
      | some (.table implicit dotted inner) => do
          let inner ← openTable isArray path inner
          return entries.set key (.table implicit dotted inner)
      | some (.tables items) => do
          let last ← items.getLast?
          let inner ← openTable isArray path last
          return entries.set key (.tables (items.dropLast ++ [inner]))
      | some (.value _) => none

/-- Changes the entries of the table that a path leads to. -/
def modify (change : Entries → Option Entries) :
    List String → Entries → Option Entries
  | [], entries => change entries
  | key :: path, entries =>
      match entries.find? key with
      | some (.table implicit dotted inner) => do
          let inner ← modify change path inner
          return entries.set key (.table implicit dotted inner)
      | some (.tables items) => do
          let last ← items.getLast?
          let inner ← modify change path last
          return entries.set key (.tables (items.dropLast ++ [inner]))
      | _ => none

end Entries

/-! ### Values -/

/-- The input without blanks, line ends and comments. -/
def skipLines : Nat → List Char → Option (List Char)
  | 0, _ => none
  | n + 1, cs => do
      let rest ← skipComment (skipBlank cs)
      match newline? rest with
      | some rest => skipLines n rest
      | none => return rest

mutual

/-- A value. -/
def readValue : Nat → List Char → Option (Json × List Char)
  | 0, _ => none
  | n + 1, cs =>
      match cs with
      | '[' :: rest => do
          let (items, rest) ← readItems n rest
          return (.array items, rest)
      | '\x7b' :: rest =>
          match skipBlank rest with
          | '\x7d' :: rest => some (.object [], rest)
          | rest => do
              let (entries, rest) ← readPairs n [] rest
              return (.object (jsonOfEntries entries), rest)
      | '"' :: _ | '\x27' :: _ =>
          (readString cs).map (fun (text, rest) => (.string text, rest))
      | _ => readScalar cs

/-- The items of an array up to its end. -/
def readItems : Nat → List Char → Option (List Json × List Char)
  | 0, _ => none
  | n + 1, cs => do
      match ← skipLines (cs.length + 1) cs with
      | ']' :: rest => return ([], rest)
      | cs =>
          let (item, rest) ← readValue n cs
          match ← skipLines (rest.length + 1) rest with
          | ',' :: rest =>
              let (items, rest) ← readItems n rest
              return (item :: items, rest)
          | ']' :: rest => return ([item], rest)
          | _ => none

/-- The pairs of an inline table up to its end. -/
def readPairs : Nat → Entries → List Char → Option (Entries × List Char)
  | 0, _, _ => none
  | n + 1, entries, cs => do
      let (path, rest) ← readKey (cs.length + 1) cs
      match rest with
      | '=' :: rest =>
          let (value, rest) ← readValue n (skipBlank rest)
          let entries ← entries.put value path
          match skipBlank rest with
          | ',' :: rest => readPairs n entries rest
          | '\x7d' :: rest => return (entries, rest)
          | _ => none
      | _ => none

end

/-! ### Documents -/

/-- A document while it is read: its entries, and the table at hand. -/
structure Builder where
  entries : Entries
  path : List String

/-- The input behind the end of a line. -/
def lineEnd (cs : List Char) : Option (List Char) := do
  let rest ← skipComment (skipBlank cs)
  match rest with
  | [] => return []
  | _ => newline? rest

/-- A header and the table it opens. -/
def readHeader (builder : Builder) (cs : List Char) :
    Option (Builder × List Char) := do
  let (isArray, rest) := match cs with
    | '[' :: rest => (true, rest)
    | rest => (false, rest)
  let (path, rest) ← readKey (cs.length + 1) rest
  let rest ← match isArray, rest with
    | true, ']' :: ']' :: rest => some rest
    | false, ']' :: rest => some rest
    | _, _ => none
  let entries ← builder.entries.openTable isArray path
  return (⟨entries, path⟩, rest)

/-- A key with its value. -/
def readPair (builder : Builder) (cs : List Char) :
    Option (Builder × List Char) := do
  let (path, rest) ← readKey (cs.length + 1) cs
  match rest with
  | '=' :: rest =>
      let (value, rest) ← readValue (2 * cs.length + 2) (skipBlank rest)
      let entries ← builder.entries.modify (·.put value path) builder.path
      return ({ builder with entries := entries }, rest)
  | _ => none

/-- The lines of a document, at most `n` of them. -/
def readLines : Nat → Builder → List Char → Option Builder
  | 0, _, _ => none
  | n + 1, builder, cs =>
      match skipBlank cs with
      | [] => some builder
      | '[' :: rest => do
          let (builder, rest) ← readHeader builder rest
          readLines n builder (← lineEnd rest)
      | c :: rest =>
          if c = '#' || c = '\n' || c = '\r' then do
            readLines n builder (← lineEnd (c :: rest))
          else do
            let (builder, rest) ← readPair builder (c :: rest)
            readLines n builder (← lineEnd rest)

/-- The fields of a document. -/
def read? (text : String) : Option (List (String × Json)) := do
  let chars := text.toList
  let chars := match chars with
    | c :: rest => if c.toNat = 0xFEFF then rest else chars
    | [] => []
  let builder ← readLines (chars.length + 1) ⟨[], []⟩ chars
  return jsonOfEntries builder.entries

end ComponentDocs.Toml
