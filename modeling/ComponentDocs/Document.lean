import ComponentDocs.Json.Printer
import ComponentDocs.Options
import ComponentDocs.RawDocument

/-!
The document of a component, and its JSON form.

The first declaration whose base makes it a component is documented by the
members of its prop shape.
-/

namespace ComponentDocs

/-- The documentation of one prop. -/
structure PropDoc where
  description : String
  typeName : String
  /-- The alternatives of a union, where they are asked for. -/
  values : Option (List String)
  required : Bool
  default : Option String
deriving Repr, DecidableEq

/-- The documentation of a component. -/
structure Document where
  displayName : Option String
  description : String
  props : OrderedMap String PropDoc
deriving Repr, DecidableEq

/-- What documentation a file yields. -/
inductive Documentation where
  | document (value : Document)
  /-- An object without fields. -/
  | empty
  /-- No object at all. -/
  | absent
deriving Repr, DecidableEq

/-! ### Assembly -/

/-- The description of a member, with the alternatives of its union. -/
def PropMember.description (member : PropMember) : String :=
  match member.valueSet with
  | some values =>
      member.comment ++ " (one of the following:" ++
        String.intercalate "," values ++ ")"
  | none => member.comment

/-- A default value as it is shown: strings stand in quotation marks. -/
def shownDefault (value typeText : String) : String :=
  if typeText = "string" then "\u201c" ++ value ++ "\u201d" else value

/-- The documentation of a member. -/
def PropMember.document (options : Options) (defaults : OrderedMap String String)
    (member : PropMember) : PropDoc where
  description := member.description
  typeName := member.typeText
  values := if options.includeValueSets then member.valueSet else none
  required := member.required
  default := (defaults.get? member.name).map (shownDefault · member.typeText)

/-- Whether a declaration is a component. -/
def Options.accepts (options : Options) (component : Component) : Bool :=
  component.base.any options.isComponentMarker

/-- The component that is documented: the first one. -/
def RawDocument.selected? (document : RawDocument) (options : Options) :
    Option Component :=
  document.components.find? options.accepts

/-- The props of a shape, by name. -/
def PropShape.props (options : Options) (defaults : OrderedMap String String)
    (shape : PropShape) : OrderedMap String PropDoc :=
  OrderedMap.ofList (shape.members.map fun member =>
    (member.name, member.document options defaults))

/-- The document of a component with the given props. -/
def Component.document (options : Options) (props : OrderedMap String PropDoc)
    (component : Component) : Document where
  displayName := match options.outputVariant with
    | .named => some component.name
    | .classic => none
  description := component.comment
  props := props

/-- Documentation together with all diagnostics. -/
structure Assembly where
  documentation : Documentation
  diagnostics : List Diagnostic
deriving Repr, DecidableEq

/-- Assembles the documentation of a raw document. -/
def RawDocument.assemble (raw : RawDocument) (options : Options) : Assembly :=
  match raw.selected? options with
  | none =>
      ⟨match options.outputVariant with
        | .classic => .empty
        | .named => .absent,
        raw.diagnostics ++ [.noComponentFound]⟩
  | some component =>
      match component.props.bind raw.shape? with
      | some shape =>
          ⟨.document (component.document options
            (shape.props options raw.defaults)), raw.diagnostics⟩
      | none =>
          ⟨match options.outputVariant with
            | .classic => .empty
            | .named => .document (component.document options .empty),
            raw.diagnostics ++
              [.unresolvedPropShape component.name component.props]⟩

/-! ### JSON -/

/-- The type of a prop as JSON. -/
def PropDoc.typeJson (value : PropDoc) : Json :=
  .object ([("name", .string value.typeName)] ++
    match value.values with
    | some values =>
        [("value", .array (values.map fun value =>
          .object [("computed", .bool false), ("value", .string value)]))]
    | none => [])

/-- A prop as JSON. -/
def PropDoc.toJson (value : PropDoc) : Json :=
  .object
    [("description", .string value.description),
      ("type", value.typeJson),
      ("required", .bool value.required),
      ("defaultValue", match value.default with
        | some text =>
            .object [("value", .string text), ("computed", .bool false)]
        | none => .null)]

/-- A document as JSON. -/
def Document.toJson (document : Document) : Json :=
  .object (
    (document.displayName.toList.map fun name =>
      ("displayName", Json.string name)) ++
    [("description", .string document.description),
      ("props", .object (document.props.entries.map fun (name, value) =>
        (name, value.toJson)))])

/-- Documentation as JSON. -/
def Documentation.toJson : Documentation → Json
  | .document value => value.toJson
  | .empty => .object []
  | .absent => .null

/-- The names of the documented props in order. -/
def Documentation.propNames? : Documentation → Option (List String)
  | .document value => some value.props.keys
  | _ => none

/-- Documentation as text. -/
def Documentation.render (layout : Json.Layout) (documentation : Documentation) :
    String :=
  Json.render layout documentation.toJson

/-- The documentation of several files as one object, by path. -/
def renderAll (layout : Json.Layout) (files : List (String × Documentation)) :
    String :=
  let table := OrderedMap.ofList files
  Json.render layout (.object (table.entries.map fun (path, value) =>
    (path, value.toJson)))

end ComponentDocs
