import ComponentDocs.Failure
import ComponentDocs.Files
import ComponentDocs.Json.Reader
import ComponentDocs.Options.Reader
import ComponentDocs.Path
import ComponentDocs.Settings.Environment
import ComponentDocs.Toml.Reader

/-!
Loading options: defaults, then a configuration file, then the environment.
-/

namespace ComponentDocs.Settings

/-! ### Reading options from settings -/

/-- A setting of another kind than expected. -/
def wrongKind {α : Type} (setting : Setting) (expected : String)
    (path : List String) : Except SettingError α :=
  .error ⟨.kind setting.found expected, path, setting.origin⟩

/-- A truth value. -/
def readBool (path : List String) : Setting → Except SettingError Bool
  | .scalar _ (.bool value) => .ok value
  | setting => wrongKind setting "a boolean" path

/-- A text. -/
def readText (path : List String) : Setting → Except SettingError String
  | .scalar _ (.text value) => .ok value
  | .scalar _ (.character value) => .ok value.toString
  | setting => wrongKind setting "a string" path

/-- Texts, with the index of the first one. -/
def readItems (path : List String) :
    Nat → List Setting → Except SettingError (List String)
  | _, [] => .ok []
  | index, item :: items => do
      let text ← readText (path ++ [toString index]) item
      return text :: (← readItems path (index + 1) items)

/-- A list of texts. -/
def readTexts (path : List String) : Setting → Except SettingError (List String)
  | .list _ items => readItems path 0 items
  | setting => wrongKind setting "a sequence" path

/-- A word out of several. -/
def readWord {α : Type} (all : List α) (word : α → String) (text : String)
    (path : List String) (origin : Origin) : Except SettingError α :=
  match all.find? (fun choice => word choice = text) with
  | some choice => .ok choice
  | none => .error ⟨.unknownWord text (all.map word), path, origin⟩

/-- A choice: its word, or a table whose first field is the word. -/
def readChoice {α : Type} (name : String) (all : List α) (word : α → String)
    (path : List String) : Setting → Except SettingError α
  | .scalar origin (.text text) => readWord all word text path origin
  | .table origin fields =>
      match Setting.firstField? fields with
      | none => .error ⟨.kind "map" "enum", path, origin⟩
      | some (text, value) => do
          let path := path ++ [text]
          let choice ← readWord all word text path value.origin
          match value with
          | .scalar _ .unit => return choice
          | value => wrongKind value "unit" path
  | setting => wrongKind setting ("enum " ++ name) path

/-- Sets one option to a setting. -/
def readField (options : Options) (field : Options.Field) (setting : Setting) :
    Except SettingError Options :=
  let path := [field.name]
  match field with
  | .heritageMode => do
      let mode ← readChoice "HeritageMode" HeritageMode.all HeritageMode.word
        path setting
      return { options with heritageMode := mode }
  | .outputVariant => do
      let variant ← readChoice "OutputVariant" OutputVariant.all
        OutputVariant.word path setting
      return { options with outputVariant := variant }
  | .namespaceMarkers => do
      return { options with namespaceMarkers := ← readTexts path setting }
  | .componentMarkers => do
      return { options with componentMarkers := ← readTexts path setting }
  | .includeValueSets => do
      return { options with includeValueSets := ← readBool path setting }

/-- The options that a table gives, up to the first error by name. -/
def readOptions (fields : List (String × Setting)) :
    Except SettingError Options :=
  Options.Field.sorted.foldlM
    (fun options field =>
      match Setting.field? fields field.name with
      | some setting => readField options field setting
      | none => .ok options)
    Options.default

/-! ### Configuration files -/

/-- The names of configuration files, the preferred one first. -/
def fileNames : List String := ["propdoc.toml", "propdoc.json"]

/-- Whether a configuration file is written in JSON. -/
def isJson (path : String) : Bool :=
  (Path.extension? path).any (fun extension => Text.lowerAscii extension = "json")

/-- The first configuration file in a directory. -/
def discover? (files : Files) (root : String) : Option String :=
  (fileNames.map (Path.join root)).find? files.hasFile

/-- The settings of a text in the format of its file. -/
def parseFile? (path text : String) : Option (List (String × Setting)) :=
  if isJson path then
    match Json.read? text with
    | some (.object fields) =>
        some (Setting.ofFields (.file (Path.plain path) "JSON") false [] fields)
    | _ => none
  else
    (Toml.read? text).map
      (Setting.ofFields (.file (Path.plain path) "TOML") true [])

/-- The settings of a configuration file; a directory holds none. -/
def readFile (files : Files) (path : String) :
    Except Failure (List (String × Setting)) :=
  match files path with
  | .ok (.file (.text text)) =>
      match parseFile? path text with
      | some fields => .ok fields
      | none => .error (.malformedConfiguration path)
  | .ok (.file .binary) => .error (.malformedConfiguration path)
  | _ => .ok []

/-- The configuration file that is used: the given one, or one that is found. -/
def chosenFile (files : Files) (root : String) (config : Option String) :
    Except Failure (Option String) :=
  match config with
  | some path =>
      if files.hasPath path then .ok (some path)
      else .error (.configuration (some path) "config file not found")
  | none => .ok (discover? files root)

/-- The options of a run. The environment stands above the file. -/
def load (files : Files) (environment : List (String × String))
    (root : String) (config : Option String) : Except Failure Options := do
  let path ← chosenFile files root config
  let below ← match path with
    | some path => readFile files path
    | none => .ok []
  let fields := match Environment.settings environment with
    | .table _ above => Setting.mergeFields below above
    | _ => below
  match readOptions fields with
  | .ok options => return options
  | .error error => .error (.configuration path error.message)

end ComponentDocs.Settings
