import ComponentDocs.RawDocument
import ComponentDocs.Source.File

/-!
Prop shapes: interfaces and object types with their inherited members.

Only declarations at the top level count, and the last one of a name is meant.
A shape's own members come first, then those of its bases that it does not
override. Each shape is visited once, so that resolution ends on every graph of
bases.
-/

namespace ComponentDocs

open Source

/-! ### Members -/

/-- Texts that make an alternative of a union an array. -/
def arrayMarkers : List String := ["Array", "[]"]

/-- The category of a union, by the texts of its alternatives. -/
def unionCategory (values : List String) : String :=
  if values.any (fun value => arrayMarkers.any (Text.holds value)) then "array"
  else "string"

/--
The text of a member's type, and the alternatives of a union. Parentheses do
not hide a union.
-/
def typeTextOf (file : File) (declaredType : Option TypeExpr) :
    String × Option (List String) :=
  match declaredType with
  | none => ("any", none)
  | some type =>
      let plain := (Text.trimmed (file.textOf type.span), none)
      match type.core with
      | .union _ alternatives =>
          if 2 ≤ alternatives.length then
            let values := alternatives.map fun alternative =>
              Text.trimmed (file.textOf alternative.span)
            (unionCategory values, some values)
          else
            plain
      | _ => plain

/-- The text of a method's parameters and result, without marks around it. -/
def methodText (text : String) : String :=
  let body := Text.trim text.toList
  let body := Text.trimStartWhile (· = '?') body
  let body := Text.trimEndWhile (fun c => c = ';' || c = ',') body
  String.ofList (Text.trim body)

/-- The member that a signature declares, if it has a plain name. -/
def memberOf? (file : File) : Signature → Option PropMember
  | .property span key optional declaredType => do
      let name ← key.plainName?
      let (typeText, valueSet) := typeTextOf file declaredType
      return {
        name := name
        typeText := typeText
        valueSet := valueSet
        required := !optional
        comment := file.comment [span.start] }
  | .method span key optional _ => do
      let name ← key.plainName?
      return {
        name := name
        typeText := methodText (file.textOf ⟨key.span.stop, span.stop⟩)
        valueSet := none
        required := !optional
        comment := file.comment [span.start] }
  | .other _ => none

/-! ### The table of shapes -/

/-- What a shape declares itself: its members and the names of its bases. -/
structure ShapeSource where
  members : List Signature
  bases : List String

/-- The name of a base, if it is a plain identifier. -/
def Source.Base.name? (base : Base) : Option String :=
  match base.expression with
  | .identifier _ name => some name
  | _ => none

/-- The shape that a declaration introduces. -/
def Source.Decl.shape? : Decl → Option (String × ShapeSource)
  | .interfaceDecl _ name _ bases members =>
      some (name, ⟨members, bases.filterMap Base.name?⟩)
  | .aliasDecl _ name _ (.literal _ members) => some (name, ⟨members, []⟩)
  | _ => none

/-- The shape that a top-level statement introduces. -/
def Source.Stmt.shape? : Stmt → Option (String × ShapeSource)
  | .declaration value => value.shape?
  | .exported _ (some value) => value.shape?
  | .exportedDefault _ value => value.shape?
  | _ => none

/-- The shapes of a file by name; later declarations replace earlier ones. -/
abbrev ShapeTable := OrderedMap String ShapeSource

/-- The table of the shapes that statements introduce. -/
def ShapeTable.ofStatements (statements : List Stmt) : ShapeTable :=
  OrderedMap.ofList (statements.filterMap Stmt.shape?)

/-! ### Inheritance -/

/-- Adds members whose names are not there yet, one after the other. -/
def addMissing (members inherited : List PropMember) : List PropMember :=
  inherited.foldl
    (fun members member =>
      if members.any (fun other => other.name = member.name) then members
      else members ++ [member])
    members

/-- The state of resolving a shape. -/
structure Resolution where
  members : List PropMember
  /-- Shapes that have been visited. -/
  visited : List String
  /-- Shapes that were met again, in order. -/
  repeated : List String
deriving Repr, DecidableEq

/--
The members of a shape with those it inherits, visiting at most `n` shapes in a
row. `own` gives the members that a shape declares itself.
-/
def resolveUpTo (table : ShapeTable) (own : ShapeSource → List PropMember) :
    Nat → String → List String → Resolution
  | 0, _, visited => ⟨[], visited, []⟩
  | n + 1, name, visited =>
      match table.get? name with
      | none => ⟨[], visited, []⟩
      | some shape =>
          if visited.contains name then
            ⟨[], visited, [name]⟩
          else
            shape.bases.foldl
              (fun state base =>
                let inherited := resolveUpTo table own n base state.visited
                ⟨addMissing state.members inherited.members,
                  inherited.visited,
                  state.repeated ++ inherited.repeated⟩)
              ⟨own shape, name :: visited, []⟩

/-- The members that a shape declares itself. -/
def ownMembers (file : File) (shape : ShapeSource) : List PropMember :=
  shape.members.filterMap (memberOf? file)

/-- The members of a shape with those it inherits. -/
def resolveShape (file : File) (table : ShapeTable) (name : String) :
    Resolution :=
  resolveUpTo table (ownMembers file) (table.size + 1) name []

end ComponentDocs
