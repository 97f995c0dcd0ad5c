import ComponentDocs.Json.Value

/-!
The options of a run.
-/

namespace ComponentDocs

/-- How a class's heritage is read. -/
inductive HeritageMode where
  /-- The names as they are written. -/
  | resolved
  /-- Every class with a base is a component with the usual names. -/
  | convention
deriving Repr, DecidableEq, Inhabited

/-- The shape of the output. -/
inductive OutputVariant where
  /-- Without the component's name. -/
  | classic
  /-- With the component's name. -/
  | named
deriving Repr, DecidableEq, Inhabited

/-- The options of a run. -/
structure Options where
  heritageMode : HeritageMode
  outputVariant : OutputVariant
  /-- Names of namespaces that are joined with the name behind them. -/
  namespaceMarkers : List String
  /-- Names of base types that make a declaration a component. -/
  componentMarkers : List String
  /-- Whether the alternatives of a union are listed. -/
  includeValueSets : Bool
deriving Repr, DecidableEq

/-- The word for a heritage mode. -/
def HeritageMode.word : HeritageMode → String
  | .resolved => "resolved"
  | .convention => "convention"

/-- The word for an output variant. -/
def OutputVariant.word : OutputVariant → String
  | .classic => "classic"
  | .named => "named"

/-- The heritage modes in the order in which they are listed. -/
def HeritageMode.all : List HeritageMode := [.resolved, .convention]

/-- The output variants in the order in which they are listed. -/
def OutputVariant.all : List OutputVariant := [.classic, .named]

/-- The heritage mode of a word. -/
def HeritageMode.ofWord? (word : String) : Option HeritageMode :=
  HeritageMode.all.find? (fun mode => mode.word = word)

/-- The output variant of a word. -/
def OutputVariant.ofWord? (word : String) : Option OutputVariant :=
  OutputVariant.all.find? (fun variant => variant.word = word)

namespace Options

/-- The options where nothing else is asked for. -/
def default : Options where
  heritageMode := .resolved
  outputVariant := .named
  namespaceMarkers := ["React", "Preact"]
  componentMarkers :=
    ["Component", "PureComponent", "StatelessComponent", "SFC", "FC",
      "FunctionComponent", "React.Component", "React.PureComponent",
      "React.StatelessComponent", "React.SFC", "React.FC",
      "React.FunctionComponent", "Preact.Component"]
  includeValueSets := false

instance : Inhabited Options := ⟨default⟩

/-- Whether a base type makes a declaration a component. -/
def isComponentMarker (options : Options) (base : String) : Bool :=
  options.componentMarkers.contains base

/-- The options as a JSON object with all its fields. -/
def toJson (options : Options) : Json :=
  .object
    [("heritage_mode", .string options.heritageMode.word),
      ("output_variant", .string options.outputVariant.word),
      ("namespace_markers", .array (options.namespaceMarkers.map .string)),
      ("component_markers", .array (options.componentMarkers.map .string)),
      ("include_value_sets", .bool options.includeValueSets)]

end Options

end ComponentDocs
