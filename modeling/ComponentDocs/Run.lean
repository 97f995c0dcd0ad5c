import ComponentDocs.CommandLine
import ComponentDocs.FileTree
import ComponentDocs.Generation
import ComponentDocs.Log
import ComponentDocs.Settings.Loader

/-!
A run of the command.

The options are those of the configuration with the arguments above them. Every
file is documented on its own, and what could be documented is emitted even if
other files fail; the failures are counted at the end.
-/

namespace ComponentDocs

/-- Why a run fails. -/
inductive RunError where
  /-- There are no options. -/
  | configuration (failure : Failure)
  /-- The text cannot be written. -/
  | unwritable (path : String) (error : FileError)
  /-- Some files have no documentation. -/
  | filesFailed (failed total : Nat)
deriving Repr, DecidableEq

/-- The text of a failure as the command shows it, with a hint. -/
def Failure.report : Failure → String
  | .configuration path message =>
      "Configuration error" ++
        (match path with
        | some path => " in " ++ path
        | none => "") ++
        ": " ++ message ++
        "\n\nHint: check propdoc.toml, propdoc.json and PROPDOC_* variables"
  | failure => failure.message

/-- The text of an error as the command shows it, with a hint. -/
def RunError.report : RunError → String
  | .configuration failure => failure.report
  | .unwritable path error =>
      "failed to write '" ++ path ++ "': " ++ error.message
  | .filesFailed failed total =>
      toString failed ++ " of " ++ toString total ++
        " file(s) could not be documented" ++
        "\n\nHint: run with --verbose for per-file details"

namespace Command

/-! ### Options -/

/-- Options with those of the arguments above them. -/
def override (command : Command) (options : Options) : Options :=
  { options with
    outputVariant := command.variant.getD options.outputVariant
    heritageMode := command.heritage.getD options.heritageMode
    includeValueSets := command.valueSets || options.includeValueSets }

/-- The options of a run in a directory. -/
def options (command : Command) (files : Files)
    (environment : List (String × String)) : Except Failure Options :=
  match Settings.load files environment "." command.config with
  | .ok options => .ok (command.override options)
  | .error failure => .error failure

/-! ### Output -/

/-- The layout of the emitted text. -/
def layout (command : Command) : Json.Layout :=
  if command.compact then .compact else .pretty

/--
The text of a run: nothing if no file is documented, the documentation itself
if there is only one file, and otherwise an object by path.
-/
def text? (command : Command) (results : Results) : Option String :=
  match results.documented with
  | [] => none
  | (path, documentation) :: more =>
      if command.files.length = 1 then
        some (documentation.render command.layout)
      else
        some (renderAll command.layout ((path, documentation) :: more))

/-- How a run ends whose text has been emitted. -/
def verdict (command : Command) (results : Results) : Option RunError :=
  if results.failed = 0 then none
  else some (.filesFailed results.failed command.files.length)

/-! ### Events -/

/-- The event of reading the configuration. -/
def configurationEvents (command : Command) (files : Files) : List Event :=
  match Settings.chosenFile files "." command.config with
  | .ok (some path) =>
      [{ level := .debug, target := "propdoc::config"
         message := "loading configuration file", fields := [("path", path)] }]
  | _ => []

/-- The events of what has become of a file. -/
def resultEvents (path : String) : Except Failure Assembly → List Event
  | .ok assembly => assembly.diagnostics.map fun diagnostic =>
      { level := .warn, target := "propdoc_cli::run"
        message := diagnostic.message, fields := [("file", path)] }
  | .error failure =>
      [{ level := .error, target := "propdoc_cli::run"
         message := failure.message }]

/-- The events of documenting the file at a path. -/
def fileEvents (options : Options) (files : Files) (path : String) :
    List Event :=
  match files.readText path with
  | .ok source => sourceEvents options path source
  | .error _ => []

/-- The events of documenting all files. -/
def resultsEvents (command : Command) (options : Options) (files : Files)
    (results : Results) : List Event :=
  [{ level := .debug, target := "propdoc_cli::run"
     message := "resolved options"
     fields := [("options", options.fieldText)] }] ++
    command.files.flatMap (fileEvents options files) ++
    results.flatMap fun (path, result) => resultEvents path result

/-- The event of a written text. -/
def writtenEvent (path : String) : Event :=
  { level := .info, target := "propdoc_cli::run"
    message := "wrote documentation", fields := [("path", path)] }

/-- The event behind everything else. -/
def doneEvent (results : Results) : Event :=
  { level := .info, target := "propdoc_cli::run", message := "done"
    fields := [("documented", toString results.documented.length),
      ("failed", toString results.failed)] }

/-! ### Runs -/

/-- A run whose text is not emitted yet. -/
structure Draft where
  events : List Event
  /-- What has become of the files, if there are options. -/
  results : Except Failure Results

/-- Documents the files, with environment variables. -/
def draft (command : Command) (files : Files)
    (environment : List (String × String)) : Draft :=
  let start := command.configurationEvents files
  match command.options files environment with
  | .error failure => ⟨start, .error failure⟩
  | .ok options =>
      let results := generateFiles options files command.files
      ⟨start ++ command.resultsEvents options files results, .ok results⟩

/-- The text that a draft emits, as a line. -/
def Draft.line? (command : Command) (draft : Draft) : Option String :=
  match draft.results with
  | .error _ => none
  | .ok results => (command.text? results).map (· ++ "\n")

/-- What a run leaves behind, its texts apart. -/
structure Ending where
  events : List Event
  error : Option RunError

/--
The end of a run. A text for a file has been written to it, or there is an
error.
-/
def Draft.conclude (command : Command) (draft : Draft)
    (written : Except FileError Unit) : Ending :=
  match draft.results with
  | .error failure => ⟨draft.events, some (.configuration failure)⟩
  | .ok results =>
      let finish (events : List Event) : Ending :=
        ⟨draft.events ++ events ++ [doneEvent results], command.verdict results⟩
      match command.text? results, command.out with
      | some _, some path =>
          match written with
          | .ok () => finish [writtenEvent path]
          | .error error => ⟨draft.events, some (.unwritable path error)⟩
      | _, _ => finish []

/-- What a run leaves behind in a tree of files. -/
structure Outcome where
  /-- What is printed. -/
  output : String
  tree : FileTree
  ending : Ending

/-- Runs the command in a tree of files, with environment variables. -/
def run (command : Command) (tree : FileTree)
    (environment : List (String × String)) : Outcome :=
  let draft := command.draft tree.files environment
  match draft.line? command, command.out with
  | none, _ => ⟨"", tree, draft.conclude command (.ok ())⟩
  | some line, none => ⟨line, tree, draft.conclude command (.ok ())⟩
  | some line, some path =>
      match tree.writeText path line with
      | .ok tree => ⟨"", tree, draft.conclude command (.ok ())⟩
      | .error error => ⟨"", tree, draft.conclude command (.error error)⟩

/-- The filter of a run's log. -/
def filter (command : Command) (environment : List (String × String)) : Filter :=
  Filter.choose command.verbose command.quiet
    ((environment.find? (fun (name, _) => name = "RUST_LOG")).map Prod.snd)

end Command

end ComponentDocs
