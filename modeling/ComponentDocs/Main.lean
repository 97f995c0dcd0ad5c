import ComponentDocs.Run

/-!
The command on the files and the environment of the system.

Only reading and writing happen here. The files that a command can ask for are
read before its run, so that the run itself sees one state of them.
-/

namespace ComponentDocs.Main

/-- An error code without its sign. -/
def plainCode (code : UInt32) : Nat :=
  if code < 0x80000000 then code.toNat else (0 - code).toNat

/-- The system's error for a file. -/
def fileError : IO.Error → FileError
  | .noFileOrDirectory _ _ _ => .missing
  | .inappropriateType _ code text =>
      match plainCode code with
      | 20 => .notDirectory
      | 21 => .isDirectory
      | code => .refused text code
  | .permissionDenied _ code text => .refused text (plainCode code)
  | error => .refused (toString error) 5

/-- What stands at a path. -/
def entryAt (path : String) : IO (Except FileError FileEntry) := do
  try
    let bytes ← IO.FS.readBinFile path
    return .ok (.file (.ofBytes bytes))
  catch error =>
    match fileError error with
    | .isDirectory => return .ok .directory
    | error => return .error error

/-- The paths that a command can ask for. -/
def paths (command : Command) : List String :=
  command.files ++
    match command.config with
    | some path => [path]
    | none => Settings.fileNames.map (Path.join ".")

/-- What stands at the paths that a command can ask for. -/
def filesOf (command : Command) : IO Files := do
  let found ← (paths command).mapM fun path => do
    return (path, ← entryAt path)
  return fun path =>
    match found.find? (fun entry => entry.1 = path) with
    | some (_, entry) => entry
    | none => .error .missing

/-- The environment variables, by name. -/
def readEnvironment : IO (List (String × String)) := do
  try
    let text ← IO.FS.readFile "/proc/self/environ"
    let named := (Text.fields '\x00' text).filterMap fun entry =>
      match entry.toList.span (· != '=') with
      | (name, _ :: value) => some (String.ofList name, String.ofList value)
      | _ => none
    return named.mergeSort (fun left right => left.1 ≤ right.1)
  catch _ =>
    return []

/-- Writes a text to the file that is asked for, or prints it. -/
def emit (command : Command) (text : String) : IO (Except FileError Unit) := do
  match command.out with
  | none =>
      (← IO.getStdout).putStr text
      return .ok ()
  | some path =>
      try
        IO.FS.writeFile path text
        return .ok ()
      catch error =>
        return .error (fileError error)

/-- Runs a command and gives its exit code. -/
def execute (command : Command) : IO UInt32 := do
  let files ← filesOf command
  let environment ← readEnvironment
  let draft := command.draft files environment
  let written ← match draft.line? command with
    | some line => emit command line
    | none => pure (.ok ())
  let ending := draft.conclude command written
  for line in logLines (command.filter environment) ending.events do
    IO.eprintln line
  match ending.error with
  | none => return 0
  | some error =>
      IO.eprintln ("Error: " ++ error.report)
      return 1

/-- How the command is used. -/
def usage : String :=
  "Usage: propdoc [OPTIONS] <FILES>...\n\n" ++
  "Options:\n" ++
  "      --config <FILE>\n" ++
  "      --variant <classic|named>\n" ++
  "      --heritage <resolved|convention>\n" ++
  "      --value-sets\n" ++
  "  -o, --out <FILE>\n" ++
  "      --compact\n" ++
  "  -v, --verbose\n" ++
  "  -q, --quiet\n" ++
  "      --no-color\n" ++
  "  -h, --help\n" ++
  "  -V, --version\n"

end ComponentDocs.Main

/-- The command. -/
def main (arguments : List String) : IO UInt32 := do
  match ComponentDocs.CommandLine.parse arguments with
  | .ok command => ComponentDocs.Main.execute command
  | .error .helpWanted =>
      IO.print ComponentDocs.Main.usage
      return 0
  | .error .versionWanted =>
      IO.println "propdoc"
      return 0
  | .error _ =>
      IO.eprint ComponentDocs.Main.usage
      return 2
