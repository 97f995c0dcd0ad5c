import ComponentDocs.Proofs.Findings

/-!
What extraction looks at, apart from shapes.

The walk over the statements of a file goes through namespaces to the classes,
functions, variables and expressions that can be seen. `visitsOf` lists these in
the order of the walk, and without the walk: whatever is found besides shapes is
found in one of them, and depends on nothing else.
-/

namespace ComponentDocs

open Source

/-- A node that is looked at, with the offset of its statement. -/
inductive Visit where
  | classNode (anchor : Nat) (value : ClassNode)
  | function (anchor : Nat) (span : Span) (value : Function)
  | bindings (anchor : Nat) (span : Span) (values : List Declarator)
  | expression (value : Expr)

mutual

/-- The visits that a declaration leads to, with the offset of its statement. -/
def Source.Decl.visits (anchor : Nat) : Decl → List Visit
  | .classDecl value => [.classNode anchor value]
  | .functionDecl span value => [.function anchor span value]
  | .variableDecl span values => [.bindings anchor span values]
  | .namespaceDecl _ statements => visitsOf .inNamespace statements
  | _ => []

/-- The visits that a statement leads to. -/
def Source.Stmt.visits (scope : Scope) : Stmt → List Visit
  | .exported span (some value) => value.visits span.start
  | .exportedDefault span value => value.visits span.start
  | .declaration value =>
      if scope = .file then value.visits value.span.start else []
  | .expression _ value => if scope = .file then [.expression value] else []
  | _ => []

/-- The visits that statements lead to, one after the other. -/
def visitsOf (scope : Scope) : List Stmt → List Visit
  | [] => []
  | statement :: statements =>
      statement.visits scope ++ visitsOf scope statements

end

theorem visitsOf_eq_flatMap (scope : Scope) (statements : List Stmt) :
    visitsOf scope statements = statements.flatMap (Stmt.visits scope) := by
  induction statements with
  | nil => simp [visitsOf]
  | cons statement statements ih => simp [visitsOf, ih]

theorem visitsOf_append (scope : Scope) (first second : List Stmt) :
    visitsOf scope (first ++ second) =
      visitsOf scope first ++ visitsOf scope second := by
  simp only [visitsOf_eq_flatMap, List.flatMap_append]

/-- The owner and the value of an assignment to `defaultProps`. -/
def Source.Expr.assignedDefaults? : Expr → Option (Expr × Expr)
  | .assignment _ "=" (.member _ owner "defaultProps") value =>
      some (owner, value)
  | _ => none

/-- The name by which the owner of default values is reported. -/
def Source.File.ownerName (file : File) : Expr → String
  | .identifier _ name => name
  | owner => file.textOf owner.span

namespace Extraction

theorem ofExpression_eq (it : Extraction) (value : Expr) :
    it.ofExpression value =
      match value.assignedDefaults? with
      | some (owner, initializer) => defaultFindings it.file.text
          (it.file.ownerName owner) initializer
      | none => [] := by
  unfold ofExpression
  split
  · rename_i owner initializer
    cases owner <;> rfl
  · simp_all [Expr.assignedDefaults?]

/-- What is found in a visit. -/
def ofVisit (it : Extraction) : Visit → List Finding
  | .classNode anchor value => it.ofClass anchor value
  | .function anchor span value => it.ofFunction anchor span value
  | .bindings anchor span values =>
      values.flatMap (it.ofDeclarator anchor span.start)
  | .expression value => it.ofExpression value

/-- A visit reads the text and the comments, and no other statement. -/
theorem ofVisit_of_file (text : String) (docs : OrderedMap Nat Span)
    (options : Options) (first second : List Stmt) (table other : ShapeTable)
    (visit : Visit) :
    ofVisit ⟨⟨text, first, docs⟩, options, table⟩ visit =
      ofVisit ⟨⟨text, second, docs⟩, options, other⟩ visit := by
  cases visit <;> rfl

variable (it : Extraction) {α : Type} {part : Finding → Option α}

mutual

theorem ofDecl_filterMap (hpart : Finding.ApartFromShapes part) (scope : Scope)
    (anchor : Nat) (value : Decl) :
    (it.ofDecl scope anchor value).filterMap part =
      ((value.visits anchor).flatMap it.ofVisit).filterMap part := by
  cases value with
  | classDecl value => simp [ofDecl, Decl.visits, ofVisit]
  | functionDecl span value => simp [ofDecl, Decl.visits, ofVisit]
  | variableDecl span bindings => simp [ofDecl, Decl.visits, ofVisit]
  | interfaceDecl span name generics bases members =>
      simp only [ofDecl, Decl.visits]
      split
      · simp [it.shapeFindings_apart hpart]
      · rfl
  | aliasDecl span name generics type =>
      simp only [ofDecl, Decl.visits]
      split
      · split
        · simp [it.shapeFindings_apart hpart]
        · rfl
      · rfl
  | namespaceDecl span statements =>
      simp only [ofDecl, Decl.visits]
      exact ofStatements_filterMap hpart .inNamespace statements
  | other span parts => simp [ofDecl, Decl.visits]

theorem ofStatement_filterMap (hpart : Finding.ApartFromShapes part)
    (scope : Scope) (statement : Stmt) :
    (it.ofStatement scope statement).filterMap part =
      ((statement.visits scope).flatMap it.ofVisit).filterMap part := by
  cases statement with
  | declaration value =>
      simp only [ofStatement, Stmt.visits]
      split
      · exact ofDecl_filterMap hpart scope value.span.start value
      · rfl
  | exported span value =>
      cases value with
      | none => simp [ofStatement, Stmt.visits]
      | some value =>
          simp only [ofStatement, Stmt.visits]
          exact ofDecl_filterMap hpart scope span.start value
  | exportedDefault span value =>
      simp only [ofStatement, Stmt.visits]
      exact ofDecl_filterMap hpart scope span.start value
  | expression span value =>
      simp only [ofStatement, Stmt.visits]
      split
      · simp [ofVisit]
      · rfl
  | other span parts => simp [ofStatement, Stmt.visits]

/-- Shapes apart, what statements show is found in their visits. -/
theorem ofStatements_filterMap (hpart : Finding.ApartFromShapes part)
    (scope : Scope) (statements : List Stmt) :
    (it.ofStatements scope statements).filterMap part =
      ((visitsOf scope statements).flatMap it.ofVisit).filterMap part := by
  cases statements with
  | nil => simp [ofStatements, visitsOf]
  | cons statement statements =>
      simp only [ofStatements, visitsOf, List.filterMap_append,
        List.flatMap_append]
      rw [ofStatement_filterMap hpart scope statement,
        ofStatements_filterMap hpart scope statements]

end

end Extraction

end ComponentDocs
