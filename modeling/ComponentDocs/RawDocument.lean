import ComponentDocs.OrderedMap

/-!
What is found in one source file.

A raw document grows by findings, one after the other. Components and
diagnostics are kept in the order in which they come; a prop shape replaces an
earlier one of its name and moves to the end; a default value replaces an
earlier one where it stands.
-/

namespace ComponentDocs

/-- Whether a component is a class or a function. -/
inductive ComponentKind where
  | classBased
  | functional
deriving Repr, DecidableEq

/-- A declaration that may be a component. -/
structure Component where
  name : String
  kind : ComponentKind
  base : Option String
  /-- The name of its prop shape. -/
  props : Option String
  comment : String
deriving Repr, DecidableEq

/-- A member of a prop shape. -/
structure PropMember where
  name : String
  /-- The text of its type, or the category of a union. -/
  typeText : String
  /-- The alternatives of a union. -/
  valueSet : Option (List String)
  required : Bool
  comment : String
deriving Repr, DecidableEq

/-- An interface or an object type with a name. -/
structure PropShape where
  name : String
  members : List PropMember
  comment : String
deriving Repr, DecidableEq

/-- Something that could not be documented. -/
inductive Diagnostic where
  /-- A component names no prop shape, or one that is not declared. -/
  | unresolvedPropShape (component : String) (expected : Option String)
  | noComponentFound
  /-- Default values, or one of them, could not be read. -/
  | malformedDefaults (owner : String) (property : Option String)
      (reason : String)
deriving Repr, DecidableEq

/-- The text of a diagnostic. -/
def Diagnostic.message : Diagnostic → String
  | .unresolvedPropShape component (some expected) =>
      "props type is not exported: `" ++ component ++ "` expects `" ++
        expected ++ "`"
  | .unresolvedPropShape component none =>
      "props type is not exported: `" ++ component ++ "` names none"
  | .noComponentFound => "no component declaration found"
  | .malformedDefaults owner (some property) reason =>
      "ignoring default for `" ++ owner ++ "." ++ property ++ "`: " ++ reason
  | .malformedDefaults owner none reason =>
      "ignoring defaultProps of `" ++ owner ++ "`: " ++ reason

/-- What is found in one source file. -/
structure RawDocument where
  components : List Component
  shapes : List PropShape
  defaults : OrderedMap String String
  diagnostics : List Diagnostic
deriving Repr, DecidableEq

namespace RawDocument

/-- Nothing is found yet. -/
def empty : RawDocument := ⟨[], [], OrderedMap.empty, []⟩

/-- Adds a component. -/
def addComponent (document : RawDocument) (value : Component) : RawDocument :=
  { document with components := document.components ++ [value] }

/-- Puts a shape at the end, in place of an earlier one of its name. -/
def insertShape (document : RawDocument) (value : PropShape) : RawDocument :=
  { document with
    shapes := document.shapes.eraseP (fun shape => shape.name = value.name) ++
      [value] }

/-- The shape of a name. -/
def shape? (document : RawDocument) (name : String) : Option PropShape :=
  document.shapes.find? (fun shape => shape.name = name)

/-- Overwrites default values, or adds them. -/
def mergeDefaults (document : RawDocument) (values : OrderedMap String String) :
    RawDocument :=
  { document with defaults := document.defaults.insertAll values.entries }

/-- Adds a diagnostic. -/
def report (document : RawDocument) (value : Diagnostic) : RawDocument :=
  { document with diagnostics := document.diagnostics ++ [value] }

end RawDocument

end ComponentDocs
