import ComponentDocs.Files
import ComponentDocs.Text.Blank

/-!
A tree of files and directories.

Paths are relative to the root of the tree.
-/

namespace ComponentDocs

/-- A file or a directory. -/
inductive FileTree where
  | file (content : Content)
  | directory (entries : List (String × FileTree))

namespace FileTree

/-- The tree without entries. -/
def empty : FileTree := .directory []

/-- The names along a path; empty ones and `.` do not count. -/
def components (path : String) : List String :=
  (Text.fields '/' path).filter (fun name => !name.isEmpty && name != ".")

/-- Whether a path asks for a directory, by its end. -/
def endsAsDirectory (path : String) : Bool :=
  match (Text.fields '/' path).getLast? with
  | some last => last.isEmpty || last = "."
  | none => false

/-- The entry of a name. -/
def entry? (entries : List (String × FileTree)) (name : String) :
    Option FileTree :=
  (entries.find? (fun entry => entry.1 = name)).map Prod.snd

/-- Sets the entry of a name. -/
def setEntry (entries : List (String × FileTree)) (name : String)
    (tree : FileTree) : List (String × FileTree) :=
  entries.filter (fun entry => entry.1 != name) ++ [(name, tree)]

/--
Walks along names. The trees above the current one are kept for `..`; above the
root there is nothing.
-/
def walk : List FileTree → FileTree → List String → Except FileError FileTree
  | _, tree, [] => .ok tree
  | above, .directory entries, name :: names =>
      if name = ".." then
        match above with
        | [] => .error .missing
        | parent :: above => walk above parent names
      else
        match entry? entries name with
        | some tree => walk (.directory entries :: above) tree names
        | none => .error .missing
  | _, .file _, _ :: _ => .error .notDirectory

/-- The tree at a path. The empty path leads nowhere. -/
def lookup (root : FileTree) (path : String) : Except FileError FileTree :=
  if path.isEmpty then .error .missing
  else
    match walk [] root (components path) with
    | .ok (.file content) =>
        if endsAsDirectory path then .error .notDirectory
        else .ok (.file content)
    | result => result

/-- What stands at each path of a tree. -/
def files (root : FileTree) : Files := fun path =>
  match root.lookup path with
  | .ok (.file content) => .ok (.file content)
  | .ok (.directory _) => .ok .directory
  | .error error => .error error

/-- The names of a path without `..`, each of which takes back a name. -/
def flatten : List String → List String → List String
  | done, [] => done.reverse
  | done, name :: names =>
      if name = ".." then flatten (done.drop 1) names
      else flatten (name :: done) names

/-- Puts a tree at names; directories on the way are made where asked for. -/
def place (makeWay : Bool) (tree : FileTree) :
    List String → FileTree → Except FileError FileTree
  | [], _ => .ok tree
  | _ :: _, .file _ => .error .notDirectory
  | name :: names, .directory entries =>
      let below := match entry? entries name with
        | some below => some below
        | none => if makeWay || names.isEmpty then some empty else none
      match below with
      | none => .error .missing
      | some below => do
          let below ← place makeWay tree names below
          return .directory (setEntry entries name below)

/-- Adds a file or a directory, with the directories above it. -/
def add (root : FileTree) (path : String) (tree : FileTree) : FileTree :=
  match place true tree (components path) root with
  | .ok root => root
  | .error _ => root

/-- Whether a path ends in a name, behind which slashes may stand. -/
def endsInName (path : String) : Bool :=
  match ((Text.fields '/' path).filter (fun name => !name.isEmpty)).getLast? with
  | some last => last != "." && last != ".."
  | none => false

/--
Writes a text to a file, which may be there or not; the directory it is in must
be there.
-/
def writeText (root : FileTree) (path text : String) :
    Except FileError FileTree :=
  if path.isEmpty then .error .missing
  else
    let names := components path
    let way := if endsInName path then names.dropLast else names
    match walk [] root way with
    | .error error => .error error
    | .ok (.file _) => .error .notDirectory
    | .ok (.directory entries) =>
        if !endsInName path || endsAsDirectory path then .error .isDirectory
        else
          match names.getLast?.bind fun name => entry? entries name with
          | some (.directory _) => .error .isDirectory
          | _ => place false (.file (.text text)) (flatten [] names) root

end FileTree

end ComponentDocs
