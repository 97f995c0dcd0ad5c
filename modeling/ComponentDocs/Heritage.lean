import ComponentDocs.Source.Mentions

/-!
What a class or a type annotation derives from.

All identifiers of the clause are listed in order. A namespace at the front is
joined with the name that follows it; then the first name is the base type and
the second one the prop shape.
-/

namespace ComponentDocs

open Source

/-- The base type and the prop shape that a clause names. -/
structure Heritage where
  base : Option String
  props : Option String
deriving Repr, DecidableEq

namespace Heritage

/-- Joins a namespace marker at the front with the next name. -/
def normalize (markers : List String) : List String → List String
  | first :: second :: rest =>
      if markers.contains first then
        (first ++ "." ++ second) :: rest
      else
        first :: second :: rest
  | names => names

/-- The names that a class derives from; none without a base class. -/
def namesOfClass (markers : List String) (value : ClassNode) : List String :=
  match value.superClass with
  | none => []
  | some superClass =>
      normalize markers
        (superClass.mentions ++ mentionsOfTypes value.superArguments)

/-- The names that a type annotation mentions. -/
def namesOfType (markers : List String) (type : TypeExpr) : List String :=
  normalize markers type.mentions

/-- The first name is the base, the second one the prop shape. -/
def ofNames (names : List String) : Heritage :=
  ⟨names[0]?, names[1]?⟩

/-! ### The clauses of a file -/

/-- A class or an annotated binding: its name and the names of its clause. -/
structure Clause where
  name : Option String
  names : List String
deriving Repr, DecidableEq

/-- The clause of a class. -/
def Clause.ofClass (markers : List String) (value : ClassNode) : Clause :=
  ⟨value.name, namesOfClass markers value⟩

/-- The clause of a binding that has an annotation. -/
def Clause.ofDeclarator? (markers : List String) (binding : Declarator) :
    Option Clause :=
  binding.declaredType.map fun type =>
    ⟨match binding.pattern with
      | .identifier _ name => some name
      | .destructuring .. => none,
      namesOfType markers type⟩

/-- The clauses of a declaration. -/
def clausesOfDecl (markers : List String) : Decl → List Clause
  | .classDecl value => [.ofClass markers value]
  | .variableDecl _ bindings => bindings.filterMap (Clause.ofDeclarator? markers)
  | _ => []

/-- The clauses of a top-level statement. -/
def clausesOfStmt (markers : List String) : Stmt → List Clause
  | .declaration value => clausesOfDecl markers value
  | .exported _ (some value) => clausesOfDecl markers value
  | .exportedDefault _ value => clausesOfDecl markers value
  | .expression _ value =>
      match value.unparenthesized with
      | .classExpr value => [.ofClass markers value]
      | _ => []
  | _ => []

end Heritage

end ComponentDocs
