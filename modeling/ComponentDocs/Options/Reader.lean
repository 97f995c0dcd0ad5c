import ComponentDocs.Options
import ComponentDocs.Text.Quoted

/-!
Reading options from JSON.

An object gives options by name and an array in the order of their declaration.
What is not given keeps its default, and names that mean nothing are ignored.
-/

namespace ComponentDocs.Options

/-- Why a value is no options. -/
inductive ReadError where
  /-- A value of another kind is expected. -/
  | kind (found : Json) (expected : String)
  /-- A word is none of the words for a choice. -/
  | unknownWord (found : String) (words : List String)
  /-- An object for a choice has not exactly one field. -/
  | notSingle
  /-- An array has more items than there are options. -/
  | tooLong (size : Nat)

/-- A value as it is named in a message. -/
def found : Json → String
  | .null => "null"
  | .bool value => "boolean `" ++ (if value then "true" else "false") ++ "`"
  | .integer value => "integer `" ++ toString value ++ "`"
  | .real value => "floating point `" ++ value.pointed ++ "`"
  | .string value => "string " ++ Text.quoted value
  | .array _ => "sequence"
  | .object _ => "map"

/-- The text of an error. -/
def ReadError.message : ReadError → String
  | .kind value expected =>
      "invalid type: " ++ found value ++ ", expected " ++ expected
  | .unknownWord word words =>
      "unknown variant `" ++ word ++ "`, expected " ++
        String.intercalate " or " (words.map fun word => "`" ++ word ++ "`")
  | .notSingle => "invalid value: map, expected map with a single key"
  | .tooLong size =>
      "invalid length " ++ toString size ++ ", expected fewer elements in array"

/-- A truth value. -/
def readBool : Json → Except ReadError Bool
  | .bool value => .ok value
  | value => .error (.kind value "a boolean")

/-- A string. -/
def readText : Json → Except ReadError String
  | .string value => .ok value
  | value => .error (.kind value "a string")

/-- A list of strings. -/
def readTexts : Json → Except ReadError (List String)
  | .array items => items.mapM readText
  | value => .error (.kind value "a sequence")

/-- A word out of several. -/
def readWord {α : Type} (all : List α) (word : α → String) (text : String) :
    Except ReadError α :=
  match all.find? (fun choice => word choice = text) with
  | some choice => .ok choice
  | none => .error (.unknownWord text (all.map word))

/-- A choice: its word, or an object with the word as only field. -/
def readChoice {α : Type} (all : List α) (word : α → String) :
    Json → Except ReadError α
  | .string text => readWord all word text
  | .object [(text, value)] => do
      let choice ← readWord all word text
      match value with
      | .null => return choice
      | value => .error (.kind value "unit")
  | .object _ => .error .notSingle
  | value => .error (.kind value "string or map")

/-- One of the options. -/
inductive Field where
  | heritageMode
  | outputVariant
  | namespaceMarkers
  | componentMarkers
  | includeValueSets
deriving Repr, DecidableEq

/-- The name of an option. -/
def Field.name : Field → String
  | .heritageMode => "heritage_mode"
  | .outputVariant => "output_variant"
  | .namespaceMarkers => "namespace_markers"
  | .componentMarkers => "component_markers"
  | .includeValueSets => "include_value_sets"

/-- The options in the order of their declaration. -/
def Field.declared : List Field :=
  [.heritageMode, .outputVariant, .namespaceMarkers, .componentMarkers,
    .includeValueSets]

/-- The options in the order of their names. -/
def Field.sorted : List Field :=
  [.componentMarkers, .heritageMode, .includeValueSets, .namespaceMarkers,
    .outputVariant]

/-- Sets one option to a JSON value. -/
def readField (options : Options) (field : Field) (value : Json) :
    Except ReadError Options :=
  match field with
  | .heritageMode => do
      let mode ← readChoice HeritageMode.all HeritageMode.word value
      return { options with heritageMode := mode }
  | .outputVariant => do
      let variant ← readChoice OutputVariant.all OutputVariant.word value
      return { options with outputVariant := variant }
  | .namespaceMarkers => do
      return { options with namespaceMarkers := ← readTexts value }
  | .componentMarkers => do
      return { options with componentMarkers := ← readTexts value }
  | .includeValueSets => do
      return { options with includeValueSets := ← readBool value }

/-- Sets options from left to right, up to the first error. -/
def readFields (options : Options) (values : List (Field × Json)) :
    Except ReadError Options :=
  values.foldlM (fun options (field, value) => readField options field value)
    options

/-- The options that a JSON value gives. -/
def ofJson : Json → Except ReadError Options
  | .object fields =>
      readFields default (Field.sorted.filterMap fun field =>
        (Json.field? fields field.name).map (field, ·))
  | .array items => do
      let options ← readFields default (Field.declared.zip items)
      if Field.declared.length < items.length then
        .error (.tooLong items.length)
      else
        return options
  | value => .error (.kind value "struct DocgenOptions")

end ComponentDocs.Options
