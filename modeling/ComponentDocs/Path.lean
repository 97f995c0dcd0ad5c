import ComponentDocs.Text.Blank

/-!
Paths as texts: file names, extensions and joining.
-/

namespace ComponentDocs.Path

/-- Splits a text at its last dot: what stands before it and behind it. -/
def splitAtLastDot (cs : List Char) : Option (List Char × List Char) :=
  let behind := (cs.reverse.takeWhile (· != '.')).reverse
  if behind.length = cs.length then
    none
  else
    some (cs.take (cs.length - behind.length - 1), behind)

/--
The last component of a path, unless it is `..` or there is none. Empty
components and components `.` do not count.
-/
def fileName? (path : List Char) : Option (List Char) :=
  let components := (Text.splitAtChar '/' path).filter
    (fun component => !component.isEmpty && component != ['.'])
  match components.getLast? with
  | none => none
  | some name => if name = ['.', '.'] then none else some name

/--
Stem and extension of a file name. A dot at the start of the name does not
begin an extension.
-/
def splitExtension (name : List Char) : List Char × Option (List Char) :=
  match splitAtLastDot name with
  | some (stem, extension) =>
      if stem.isEmpty then (name, none) else (stem, some extension)
  | none => (name, none)

/-- The extension of the file that a path names. -/
def extension? (path : String) : Option String :=
  match fileName? path.toList with
  | none => none
  | some name => (splitExtension name).2.map String.ofList

/-- A path with a name behind it. -/
def join (root name : String) : String :=
  if root.isEmpty || root.toList.getLast? = some '/' then root ++ name
  else root ++ "/" ++ name

/-- A path without empty components and components `.`. -/
def plain (path : String) : String :=
  String.intercalate "/" ((Text.fields '/' path).filter
    (fun component => !component.isEmpty && component != "."))

end ComponentDocs.Path
