/-!
Files and directories.

What stands at each path is a function of the path. Reading and writing fail
with the texts of the operating system.
-/

namespace ComponentDocs

/-- What a file holds. -/
inductive Content where
  | text (value : String)
  /-- Bytes that are no text. -/
  | binary
deriving Repr, DecidableEq

/-- The content of bytes. -/
def Content.ofBytes (bytes : ByteArray) : Content :=
  match String.fromUTF8? bytes with
  | some value => .text value
  | none => .binary

/-- What stands at a path. -/
inductive FileEntry where
  | file (content : Content)
  | directory
deriving Repr, DecidableEq

/-- Why a file cannot be read or written. -/
inductive FileError where
  | missing
  | isDirectory
  | notDirectory
  /-- The file is no text. -/
  | notText
  /-- What else the system says. -/
  | refused (text : String) (code : Nat)
deriving Repr, DecidableEq

/-- The system's text for an error. -/
def FileError.message : FileError → String
  | .missing => "No such file or directory (os error 2)"
  | .isDirectory => "Is a directory (os error 21)"
  | .notDirectory => "Not a directory (os error 20)"
  | .notText => "stream did not contain valid UTF-8"
  | .refused text code => text ++ " (os error " ++ toString code ++ ")"

/-- What stands at each path. -/
abbrev Files := String → Except FileError FileEntry

namespace Files

/-- Whether something is at a path. -/
def hasPath (files : Files) (path : String) : Bool :=
  match files path with
  | .ok _ => true
  | .error _ => false

/-- Whether a file is at a path. -/
def hasFile (files : Files) (path : String) : Bool :=
  match files path with
  | .ok (.file _) => true
  | _ => false

/-- The text of the file at a path. -/
def readText (files : Files) (path : String) : Except FileError String :=
  match files path with
  | .ok (.file (.text value)) => .ok value
  | .ok (.file .binary) => .error .notText
  | .ok .directory => .error .isDirectory
  | .error error => .error error

end Files

end ComponentDocs
