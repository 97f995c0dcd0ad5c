/-!
What can go wrong on the way to documentation.
-/

namespace ComponentDocs

/-- Why there is no documentation. -/
inductive Failure where
  /-- A source file cannot be read; the cause is the system's text. -/
  | unreadable (path cause : String)
  /-- A source file breaks the grammar. -/
  | malformed (path : String) (problems : List String)
  /-- The configuration is wrong, perhaps in a file. -/
  | configuration (path : Option String) (message : String)
  /-- A configuration file breaks the grammar of its format. -/
  | malformedConfiguration (path : String)
deriving Repr, DecidableEq

/-- The text of a failure. -/
def Failure.message : Failure → String
  | .unreadable path cause => "failed to read source '" ++ path ++ "': " ++ cause
  | .malformed path problems =>
      "failed to parse source '" ++ path ++ "': " ++
        String.intercalate "; " problems
  | .configuration none message => "invalid configuration: " ++ message
  | .configuration (some path) message =>
      "invalid configuration in '" ++ path ++ "': " ++ message
  | .malformedConfiguration path =>
      "invalid configuration in '" ++ path ++ "': syntax error"

end ComponentDocs
