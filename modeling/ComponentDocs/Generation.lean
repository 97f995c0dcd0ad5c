import ComponentDocs.Document
import ComponentDocs.Extraction
import ComponentDocs.Failure
import ComponentDocs.Files

/-!
From source texts and files to documentation.
-/

namespace ComponentDocs

/-- The raw document of a source text. -/
def extract (options : Options) (path source : String) :
    Except Failure RawDocument :=
  match Source.File.parse? path source with
  | some file => .ok (file.rawDocument options)
  | none => .error (.malformed path ["Unexpected token"])

/-- The documentation of a source text, with its diagnostics. -/
def generate (options : Options) (path source : String) :
    Except Failure Assembly :=
  match extract options path source with
  | .ok raw => .ok (raw.assemble options)
  | .error failure => .error failure

/-- The documentation of a file. -/
def generateFile (options : Options) (files : Files) (path : String) :
    Except Failure Assembly :=
  match files.readText path with
  | .ok source => generate options path source
  | .error error => .error (.unreadable path error.message)

/-- What becomes of each of several files; one that fails stops no other. -/
abbrev Results := List (String × Except Failure Assembly)

/-- The documentation of several files, in their order. -/
def generateFiles (options : Options) (files : Files) (paths : List String) :
    Results :=
  paths.map fun path => (path, generateFile options files path)

namespace Results

/-- The documentation of the files that have some. -/
def documented (results : Results) : List (String × Documentation) :=
  results.filterMap fun (path, result) =>
    match result with
    | .ok assembly => some (path, assembly.documentation)
    | .error _ => none

/-- How many files have no documentation. -/
def failed (results : Results) : Nat :=
  results.length - results.documented.length

end Results

end ComponentDocs
