import ComponentDocs.Document
import ComponentDocs.Extraction
import ComponentDocs.Text.Quoted

/-!
The log of a run.

Every event has a level and a target. A filter decides by the longest target
that an event's target starts with which levels are shown.
-/

namespace ComponentDocs

/-- How important an event is, the most important first. -/
inductive Level where
  | error
  | warn
  | info
  | debug
  | trace
deriving Repr, DecidableEq

/-- The rank of a level; zero is for nothing at all. -/
def Level.rank : Level → Nat
  | .error => 1
  | .warn => 2
  | .info => 3
  | .debug => 4
  | .trace => 5

/-- A level as it stands in a line. -/
def Level.label : Level → String
  | .error => "ERROR"
  | .warn => " WARN"
  | .info => " INFO"
  | .debug => "DEBUG"
  | .trace => "TRACE"

/-- One event. -/
structure Event where
  level : Level
  target : String
  message : String
  /-- Names and values behind the message. -/
  fields : List (String × String) := []
  /-- The file that is being documented. -/
  path : Option String := none
deriving Repr, DecidableEq

/-! ### Events of documenting a file -/

/-- Options as they stand in a field. -/
def Options.fieldText (options : Options) : String :=
  "DocgenOptions \x7b heritage_mode: " ++
    (match options.heritageMode with
    | .resolved => "Resolved"
    | .convention => "Convention") ++
    ", output_variant: " ++
    (match options.outputVariant with
    | .classic => "Classic"
    | .named => "Named") ++
    ", namespace_markers: " ++ Text.quotedList options.namespaceMarkers ++
    ", component_markers: " ++ Text.quotedList options.componentMarkers ++
    ", include_value_sets: " ++ toString options.includeValueSets ++ " \x7d"

/-- An optional text as it stands in a field. -/
def optionText : Option String → String
  | some text => "Some(" ++ Text.quoted text ++ ")"
  | none => "None"

/-- The event of a note. -/
def Note.event : Note → Event
  | .anonymousClass =>
      { level := .debug, target := "propdoc::extractor"
        message := "skipping anonymous class" }
  | .classifiedClass name heritage =>
      { level := .debug, target := "propdoc::extractor"
        message := "classified class"
        fields := [("class", name), ("base", optionText heritage.base),
          ("props", optionText heritage.props)] }
  | .classifiedFunction name props =>
      { level := .debug, target := "propdoc::extractor"
        message := "classified function component"
        fields := [("function", name), ("props", props)] }
  | .undefinedDefault owner property =>
      { level := .debug, target := "propdoc::defaults"
        message := "default is undefined, skipping"
        fields := [("owner", Text.quoted owner), ("property", property)] }
  | .inheritanceCycle shape =>
      { level := .debug, target := "propdoc::extractor"
        message := "inheritance cycle, stopping"
        fields := [("shape", Text.quoted shape)] }

/-- The events of adding a finding to a document. -/
def Finding.events (document : RawDocument) : Finding → List Event
  | .note found => [found.event]
  | .problem diagnostic =>
      [{ level := .warn, target := "propdoc::model"
         message := diagnostic.message }]
  | .shape added =>
      if (document.shape? added.name).isSome then
        [{ level := .debug, target := "propdoc::model"
           message := "replacing duplicate prop shape"
           fields := [("name", added.name)] }]
      else
        []
  | _ => []

/-- The events of adding findings one after the other. -/
def findingEvents (document : RawDocument) : List Finding → List Event
  | [] => []
  | finding :: findings =>
      finding.events document ++ findingEvents (document.add finding) findings

/-- The event behind an extraction. -/
def RawDocument.event (document : RawDocument) : Event :=
  { level := .debug, target := "propdoc::extractor"
    message := "extracted declarations"
    fields := [("class_likes", toString document.components.length),
      ("prop_shapes", toString document.shapes.length),
      ("defaults", toString document.defaults.size)] }

/-- The events of an assembly: what it adds to the diagnostics. -/
def assemblyEvents (raw : RawDocument) (assembly : Assembly) : List Event :=
  (assembly.diagnostics.drop raw.diagnostics.length).map fun diagnostic =>
    { level := match diagnostic with
        | .noComponentFound => .debug
        | _ => .warn
      target := "propdoc::assembler"
      message := diagnostic.message }

/-- The events of documenting a source text. -/
def sourceEvents (options : Options) (path source : String) : List Event :=
  match Source.File.parse? path source with
  | none => []
  | some file =>
      let raw := file.rawDocument options
      let events := findingEvents .empty (file.findings options) ++
        [raw.event] ++ assemblyEvents raw (raw.assemble options)
      events.map fun event => { event with path := some path }

/-! ### Filters -/

/-- What is shown of the targets that start with a text. -/
structure Directive where
  target : String
  /-- The rank of the least important level shown. -/
  rank : Nat
deriving Repr, DecidableEq

/-- The rank of a level's name. -/
def levelRank? (name : String) : Option Nat :=
  match Text.lowerAscii name with
  | "off" | "0" => some 0
  | "error" | "1" => some 1
  | "warn" | "2" => some 2
  | "info" | "3" => some 3
  | "debug" | "4" => some 4
  | "trace" | "5" => some 5
  | _ => none

/-- Whether a character can begin a target. -/
def beginsTarget (c : Char) : Bool :=
  c.isAlphanum || c = '_' || c = ':' || c = '-' || 128 ≤ c.toNat

/--
Reads one directive: a level for all targets, a target whose events are all
shown, or a target and a level with an equals sign between them.
-/
def directive? (text : String) : Option Directive :=
  match levelRank? text with
  | some rank => some ⟨"", rank⟩
  | none =>
      match Text.trimStart text.toList with
      | [] => none
      | first :: _ =>
          if beginsTarget first then
            match text.toList.span (· != '=') with
            | (_, []) => some ⟨text, 5⟩
            | (target, _ :: level) =>
                if target.head?.any Text.isBlank then none
                else if level.isEmpty then some ⟨String.ofList target, 5⟩
                else
                  (levelRank? (String.ofList level)).map
                    (fun rank => ⟨String.ofList target, rank⟩)
          else
            none

/-- A filter. -/
abbrev Filter := List Directive

/-- Reads a filter: directives between commas, empty ones left out. -/
def Filter.read? (text : String) : Option Filter :=
  ((Text.fields ',' text).filter (!·.isEmpty)).mapM directive?

/-- The filter that shows a level of the program's own targets. -/
def Filter.own (rank : Nat) : Filter :=
  [⟨"propdoc", rank⟩, ⟨"propdoc_cli", rank⟩]

/-- The filter of a run, by its switches and the environment. -/
def Filter.choose (verbose quiet : Bool) (setting : Option String) : Filter :=
  if verbose then Filter.own 4
  else if quiet then Filter.own 1
  else (setting.bind Filter.read?).getD (Filter.own 3)

/-- The rank that is shown of a target. -/
def Filter.rankOf (filter : Filter) (target : String) : Nat :=
  let best := filter.foldl
    (fun (best : Option Directive) directive =>
      if directive.target.toList.isPrefixOf target.toList ∧
          best.all (fun other => other.target.length ≤ directive.target.length) then
        some directive
      else
        best)
    none
  match best with
  | some directive => directive.rank
  | none => 0

/-- Whether an event of a level and target is shown. -/
def Filter.shows (filter : Filter) (level : Level) (target : String) : Bool :=
  level.rank ≤ filter.rankOf target

/-! ### Lines -/

/-- The line of an event. Events of a file name it if that is shown at all. -/
def Event.line (filter : Filter) (event : Event) : String :=
  let path := if filter.shows .debug "propdoc::generator" then event.path else none
  " " ++ event.level.label ++ " " ++
    (if path.isSome then "generate: " else "") ++ event.message ++
    String.join (event.fields.map fun (name, value) =>
      " " ++ name ++ "=" ++ value) ++
    (match path with
    | some path => " path=" ++ path
    | none => "")

/-- The lines of the events that a filter shows. -/
def logLines (filter : Filter) (events : List Event) : List String :=
  (events.filter fun event => filter.shows event.level event.target).map
    (Event.line filter)

end ComponentDocs
