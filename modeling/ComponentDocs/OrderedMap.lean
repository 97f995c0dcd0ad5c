/-!
Maps that remember the order in which their keys first came in.

A map is a list of entries. Inserting under a known key overwrites the value
where it stands, and a new key goes to the end.
-/

namespace ComponentDocs

/-- Entries in the order of their first insertion. -/
structure OrderedMap (κ : Type) (α : Type) where
  entries : List (κ × α)
deriving Repr, DecidableEq, Inhabited

namespace OrderedMap

variable {κ α : Type} [DecidableEq κ]

/-- The map without entries. -/
def empty : OrderedMap κ α := ⟨[]⟩

/-- Overwrites the value of `key` in place, or appends a new entry. -/
def insertEntry (key : κ) (value : α) : List (κ × α) → List (κ × α)
  | [] => [(key, value)]
  | entry :: rest =>
      if entry.1 = key then
        (key, value) :: rest
      else
        entry :: insertEntry key value rest

/-- Inserts a value; a known key keeps its place. -/
def insert (map : OrderedMap κ α) (key : κ) (value : α) : OrderedMap κ α :=
  ⟨insertEntry key value map.entries⟩

/-- Inserts entries from left to right. -/
def insertAll (map : OrderedMap κ α) (entries : List (κ × α)) :
    OrderedMap κ α :=
  entries.foldl (fun map entry => map.insert entry.1 entry.2) map

/-- The map built from entries by inserting them from left to right. -/
def ofList (entries : List (κ × α)) : OrderedMap κ α :=
  empty.insertAll entries

/-- The value stored under a key. -/
def get? (map : OrderedMap κ α) (key : κ) : Option α :=
  (map.entries.find? (fun entry => entry.1 = key)).map Prod.snd

/-- The keys in order. -/
def keys (map : OrderedMap κ α) : List κ :=
  map.entries.map Prod.fst

/-- The number of entries. -/
def size (map : OrderedMap κ α) : Nat :=
  map.entries.length

end OrderedMap

end ComponentDocs
