import ComponentDocs.Proofs.Composition
import ComponentDocs.Proofs.Pruning

/-!
What namespaces show.

A namespace shows its exported statements and nothing else, at every depth: its
other statements can be taken out of the tree, and its exported ones count as if
they stood at the top, except that namespaces show no shapes. There is one place
from which the statements of a namespace are read nevertheless: the clause that a
class or a variable derives from lists every identifier below it.
-/

namespace ComponentDocs

open Source

/-! ### Exports and namespaces -/

/-- Whether a statement exports a declaration, or names. -/
def Source.Stmt.isExport : Stmt → Bool
  | .exported .. => true
  | .exportedDefault .. => true
  | _ => false

/-- Whether a declaration is a namespace. -/
def Source.Decl.isNamespace : Decl → Bool
  | .namespaceDecl .. => true
  | _ => false

/-- Whether a statement is a namespace, exported or not. -/
def Source.Stmt.isNamespace : Stmt → Bool
  | .declaration value => value.isNamespace
  | .exported _ (some value) => value.isNamespace
  | .exportedDefault _ value => value.isNamespace
  | _ => false

/--
Takes statements that are not exported out of the bodies of all namespaces, as
many of them as `dropped` names.
-/
def Source.Pruning.hiding (dropped : Stmt → Bool) (inClauses : Bool) :
    Pruning where
  inBodies statement := statement.isExport || !dropped statement
  elsewhere _ := true
  inClauses := inClauses

/-- Takes all namespaces out of the tree. -/
def Source.Pruning.namespaces : Pruning where
  inBodies statement := !statement.isNamespace
  elsewhere statement := !statement.isNamespace
  inClauses := true

/-! ### The shapes of a pruned file -/

section Shapes

variable {cut : Pruning}

/-- Shapes that declare the same members and bases resolve alike. -/
theorem resolveUpTo_of_map {table other : ShapeTable}
    {own : ShapeSource → List PropMember} {change : ShapeSource → ShapeSource}
    (htable : ∀ name, other.get? name = (table.get? name).map change)
    (hown : ∀ source, own (change source) = own source)
    (hbases : ∀ source, (change source).bases = source.bases)
    (n : Nat) (name : String) (visited : List String) :
    resolveUpTo other own n name visited =
      resolveUpTo table own n name visited := by
  induction n generalizing name visited with
  | zero => rfl
  | succ n ih =>
      simp only [resolveUpTo, htable, ih]
      cases table.get? name with
      | none => rfl
      | some source => simp only [Option.map_some, hown, hbases]

theorem Source.Stmt.commentAnchors_pruned (statement : Stmt) :
    (statement.pruned cut).commentAnchors = statement.commentAnchors := by
  have hdecl : ∀ (anchor : Nat) (value : Decl),
      (value.pruned cut).commentAnchors anchor = value.commentAnchors anchor := by
    intro anchor value
    cases value <;> simp [Decl.pruned, Decl.commentAnchors]
  cases statement with
  | exported span value =>
      cases value <;> simp [Stmt.pruned, Stmt.commentAnchors, hdecl]
  | _ => simp [Stmt.pruned, Stmt.commentAnchors, hdecl]

/-- Where only statements without a shape are taken out, all shapes are found. -/
theorem filterMap_shape?_prunedStmts
    (hgone : ∀ statement : Stmt, cut.elsewhere statement = false →
      statement.shape? = none) (statements : List Stmt) :
    (prunedStmts cut statements).filterMap Stmt.shape? =
      (statements.filterMap Stmt.shape?).map (declaredPruned cut) := by
  rw [prunedStmts_eq, List.filterMap_map, List.filterMap_filter,
    List.map_filterMap]
  refine List.filterMap_congr fun statement _ => ?_
  simp only [Function.comp_apply, Stmt.shape?_pruned]
  split
  · rfl
  · rename_i hcut
    rw [hgone statement (by simpa using hcut), Option.map_none]

/-- The table of a pruned file resolves names to the members that they had. -/
theorem resolveShape_prunedStmts
    (hgone : ∀ statement : Stmt, cut.elsewhere statement = false →
      statement.shape? = none) (file : File) (statements : List Stmt)
    (name : String) :
    resolveShape file (ShapeTable.ofStatements (prunedStmts cut statements))
        name =
      resolveShape file (ShapeTable.ofStatements statements) name := by
  have htable : ShapeTable.ofStatements (prunedStmts cut statements) =
      OrderedMap.ofList ((statements.filterMap Stmt.shape?).map
        fun declared => (declared.1, declared.2.pruned cut)) := by
    rw [ShapeTable.ofStatements, filterMap_shape?_prunedStmts hgone]
    rfl
  have hsize := OrderedMap.size_ofList_map (ShapeSource.pruned cut)
    (statements.filterMap Stmt.shape?)
  rw [resolveShape, resolveShape, htable, hsize]
  refine resolveUpTo_of_map ?_ (ownMembers_pruned cut file) (fun _ => rfl) _ _ _
  intro other
  exact OrderedMap.get?_ofList_map (ShapeSource.pruned cut)
    (statements.filterMap Stmt.shape?) other

/-- A pruning that takes out no shape leaves the shapes of the document. -/
theorem shapes_pruned
    (hgone : ∀ statement : Stmt, cut.elsewhere statement = false →
      statement.shape? = none) (text : String) (docs : OrderedMap Nat Span)
    (options : Options) (statements : List Stmt) :
    (File.rawDocument ⟨text, prunedStmts cut statements, docs⟩ options).shapes =
      (File.rawDocument ⟨text, statements, docs⟩ options).shapes := by
  rw [shapes_eq_shown, shapes_eq_shown, prunedStmts_eq, List.filterMap_map,
    List.filterMap_filter, ← prunedStmts_eq]
  congr 3
  refine List.filterMap_congr fun statement _ => ?_
  cases hcut : cut.elsewhere statement with
  | false =>
      rw [Extraction.shown?, hgone statement hcut, Option.map_none]
      rfl
  | true =>
      simp only [Function.comp_apply, ↓reduceIte, Extraction.shown?,
        Stmt.shape?_pruned, Option.map_map, Stmt.commentAnchors_pruned]
      congr 1
      funext declared
      simp only [Function.comp_apply, declaredPruned,
        resolveShape_prunedStmts hgone]

end Shapes

/-! ### The visits of a pruned file -/

/-- A visit after a pruning. -/
def Visit.pruned (cut : Pruning) : Visit → Visit
  | .classNode anchor value => .classNode anchor (value.pruned cut)
  | .function anchor span value => .function anchor span (value.pruned cut)
  | .bindings anchor span values =>
      .bindings anchor span (prunedDeclarators cut values)
  | .expression value => .expression (value.pruned cut)

/-- In a namespace only exported statements are visited. -/
theorem Source.Stmt.visits_inNamespace_of_not_isExport {statement : Stmt}
    (hexport : statement.isExport = false) :
    statement.visits .inNamespace = [] := by
  cases statement with
  | declaration value => simp [Stmt.visits]
  | exported span value => simp [Stmt.isExport] at hexport
  | exportedDefault span value => simp [Stmt.isExport] at hexport
  | expression span value => simp [Stmt.visits]
  | other span parts => simp [Stmt.visits]

section Visits

variable {cut : Pruning}

mutual

theorem visits_pruned_of_decl
    (hexports : ∀ statement : Stmt, statement.isExport = true →
      cut.inBodies statement = true) (anchor : Nat) (value : Decl) :
    (value.pruned cut).visits anchor =
      (value.visits anchor).map (Visit.pruned cut) := by
  cases value with
  | namespaceDecl span statements =>
      simp only [Decl.pruned, Decl.visits]
      exact visitsOf_prunedBody hexports statements
  | _ => simp [Decl.pruned, Decl.visits, Visit.pruned]

theorem visits_pruned_of_stmt
    (hexports : ∀ statement : Stmt, statement.isExport = true →
      cut.inBodies statement = true) (scope : Scope) (statement : Stmt) :
    (statement.pruned cut).visits scope =
      (statement.visits scope).map (Visit.pruned cut) := by
  cases statement with
  | declaration value =>
      simp only [Stmt.pruned, Stmt.visits, Decl.span_pruned]
      split
      · exact visits_pruned_of_decl hexports value.span.start value
      · rfl
  | exported span value =>
      cases value with
      | none => simp [Stmt.pruned, Stmt.visits]
      | some value =>
          simp only [Stmt.pruned, Stmt.visits]
          exact visits_pruned_of_decl hexports span.start value
  | exportedDefault span value =>
      simp only [Stmt.pruned, Stmt.visits]
      exact visits_pruned_of_decl hexports span.start value
  | expression span value =>
      simp only [Stmt.pruned, Stmt.visits]
      split <;> rfl
  | other span parts => simp [Stmt.pruned, Stmt.visits]

theorem visitsOf_prunedBody
    (hexports : ∀ statement : Stmt, statement.isExport = true →
      cut.inBodies statement = true) (statements : List Stmt) :
    visitsOf .inNamespace (prunedBody cut statements) =
      (visitsOf .inNamespace statements).map (Visit.pruned cut) := by
  cases statements with
  | nil => simp [prunedBody, visitsOf]
  | cons statement statements =>
      have hrest := visitsOf_prunedBody hexports statements
      simp only [prunedBody, visitsOf, List.map_append]
      split
      · rw [visitsOf, visits_pruned_of_stmt hexports .inNamespace statement, hrest]
      · -- What is taken out is no export, so it was not visited.
        rename_i hcut
        have hhidden : statement.isExport = false := by
          by_contra hexport
          exact hcut (hexports statement (by simpa using hexport))
        rw [Stmt.visits_inNamespace_of_not_isExport hhidden, hrest]
        rfl

end

end Visits

/-! ### What is found in a visit after a pruning -/

section Found

variable {cut : Pruning}

theorem Source.Expr.assignedDefaults?_pruned (value : Expr) :
    (value.pruned cut).assignedDefaults? =
      value.assignedDefaults?.map
        (Prod.map (Expr.pruned cut) (Expr.pruned cut)) := by
  cases value with
  | assignment span operator target value =>
      cases target with
      | member inside owner property =>
          by_cases hboth : operator = "=" ∧ property = "defaultProps"
          · obtain ⟨rfl, rfl⟩ := hboth
            rfl
          · have hnone : ∀ owner value, (Expr.assignment span operator
                (.member inside owner property) value).assignedDefaults? =
                  none := by
              intro owner value
              unfold Expr.assignedDefaults?
              split <;> simp_all
            simp [Expr.pruned, hnone]
      | _ => simp [Expr.pruned, Expr.assignedDefaults?]
  | _ => simp [Expr.pruned, Expr.assignedDefaults?]

namespace Extraction

variable (hall : ∀ statement, cut.elsewhere statement = true)

include hall

theorem defaultFindings_pruned (source owner : String) (initializer : Expr) :
    defaultFindings source owner (initializer.pruned cut) =
      defaultFindings source owner initializer := by
  simp only [defaultFindings, Defaults.read_pruned hall]

theorem memberFindings_pruned (source owner : String) (member : ClassMember) :
    memberFindings source owner (member.pruned cut) =
      memberFindings source owner member := by
  cases member with
  | field isStatic decorators key declaredType value =>
      cases isStatic <;> cases value <;>
        simp [ClassMember.pruned, memberFindings, prunedExpr?,
          defaultFindings_pruned hall]
  | other parts => simp [ClassMember.pruned, memberFindings]

omit hall in
theorem parameterType?_pruned (it : Extraction) (value : Function) :
    it.parameterType? (value.pruned cut) = it.parameterType? value := by
  obtain ⟨name, head, params, rest, result, body⟩ := value
  match params, rest with
  | [], rest => simp [Function.pruned, parameterType?, prunedParams]
  | [param], some rest =>
      simp [Function.pruned, parameterType?, prunedParams, prunedParam?]
  | [param], none =>
      obtain ⟨decorators, pattern, declaredType, value⟩ := param
      simp only [Function.pruned, parameterType?, prunedParams, prunedParam?,
        Param.pruned]
      cases declaredType with
      | none => simp only [prunedType?]
      | some type =>
          cases type <;> cases value <;>
            simp only [prunedType?, prunedExpr?, TypeExpr.pruned]
  | first :: second :: others, rest =>
      simp [Function.pruned, parameterType?, prunedParams]

/-- Where the clause of a class is left alone, the class shows what it showed. -/
theorem ofClass_pruned (hclauses : cut.inClauses = false) (it : Extraction)
    (anchor : Nat) (value : ClassNode) :
    it.ofClass anchor (value.pruned cut) = it.ofClass anchor value := by
  obtain ⟨span, decorators, name, generics, superClass, superArguments,
    implemented, members⟩ := value
  have hmembers : ∀ owner, (prunedMembers cut members).flatMap
        (memberFindings it.file.text owner) =
      members.flatMap (memberFindings it.file.text owner) := by
    intro owner
    rw [prunedMembers_eq_map, List.flatMap_map]
    exact congrArg (members.flatMap ·)
      (funext (memberFindings_pruned hall it.file.text owner))
  simp [ClassNode.pruned, ofClass, Heritage.namesOfClass, hclauses, hmembers]

omit hall in
theorem ofDeclarator_pruned (hclauses : cut.inClauses = false)
    (it : Extraction) (anchor start : Nat) (binding : Declarator) :
    it.ofDeclarator anchor start (binding.pruned cut) =
      it.ofDeclarator anchor start binding := by
  obtain ⟨span, pattern, declaredType, value⟩ := binding
  simp only [Declarator.pruned, hclauses, Bool.false_eq_true, ↓reduceIte,
    ofDeclarator]
  cases pattern with
  | destructuring inside parts => simp only [Pattern.pruned]
  | identifier inside name =>
      cases value with
      | none => simp only [Pattern.pruned, prunedExpr?]
      | some value =>
          simp only [Pattern.pruned, prunedExpr?, Expr.core_pruned]
          cases value.core <;>
            simp only [Expr.pruned, parameterType?_pruned]

theorem ofExpression_pruned (it : Extraction) (value : Expr) :
    it.ofExpression (value.pruned cut) = it.ofExpression value := by
  have howner : ∀ owner : Expr,
      it.file.ownerName (owner.pruned cut) = it.file.ownerName owner := by
    intro owner
    cases owner <;>
      simp only [Expr.pruned, File.ownerName, Expr.span, ClassNode.span_pruned]
  rw [ofExpression_eq, ofExpression_eq, Expr.assignedDefaults?_pruned]
  cases value.assignedDefaults? with
  | none => rfl
  | some assigned =>
      simp only [Option.map_some, Prod.map, howner, defaultFindings_pruned hall]

/-- A visit shows what it showed, clauses apart. -/
theorem ofVisit_pruned (hclauses : cut.inClauses = false) (it : Extraction)
    (visit : Visit) : it.ofVisit (visit.pruned cut) = it.ofVisit visit := by
  cases visit with
  | classNode anchor value => exact ofClass_pruned hall hclauses it anchor value
  | function anchor span value =>
      have hname : (value.pruned cut).name = value.name := by
        cases value
        simp only [Function.pruned]
      simp only [Visit.pruned, ofVisit, ofFunction, hname, parameterType?_pruned]
  | bindings anchor span values =>
      simp only [Visit.pruned, ofVisit, prunedDeclarators_eq_map,
        List.flatMap_map, ofDeclarator_pruned hclauses]
  | expression value => exact ofExpression_pruned hall it value

end Extraction

end Found

/-! ### The document of a pruned tree -/

theorem shape?_of_isNamespace {statement : Stmt}
    (hnamespace : statement.isNamespace = true) : statement.shape? = none := by
  have hdecl : ∀ value : Decl, value.isNamespace = true → value.shape? = none := by
    intro value hvalue
    cases value <;> first | rfl | simp [Decl.isNamespace] at hvalue
  cases statement with
  | declaration value => exact hdecl value hnamespace
  | exported span value =>
      cases value with
      | none => rfl
      | some value => exact hdecl value hnamespace
  | exportedDefault span value => exact hdecl value hnamespace
  | expression span value => rfl
  | other span parts => rfl

/-- Statements that namespaces hide make no difference, clauses apart. -/
theorem rawDocument_hiding (dropped : Stmt → Bool) (text : String)
    (docs : OrderedMap Nat Span) (options : Options) (statements : List Stmt) :
    File.rawDocument
        ⟨text, prunedStmts (.hiding dropped false) statements, docs⟩ options =
      File.rawDocument ⟨text, statements, docs⟩ options := by
  have hall : ∀ statement,
      (Pruning.hiding dropped false).elsewhere statement = true := fun _ => rfl
  have hexports : ∀ statement : Stmt, statement.isExport = true →
      (Pruning.hiding dropped false).inBodies statement = true := by
    intro statement hexport
    simp [Pruning.hiding, hexport]
  have hvisits : visitsOf .file
        (prunedStmts (.hiding dropped false) statements) =
      (visitsOf .file statements).map (Visit.pruned (.hiding dropped false)) := by
    rw [prunedStmts_eq, List.filter_eq_self.mpr fun statement _ => hall statement,
      visitsOf_eq_flatMap, visitsOf_eq_flatMap, List.flatMap_map,
      List.map_flatMap]
    exact congrArg (statements.flatMap ·)
      (funext (visits_pruned_of_stmt hexports .file))
  refine rawDocument_eq_of_findings ?_ (shapes_pruned ?_ text docs options statements)
  · intro β part hpart
    rw [findings_filterMap hpart, findings_filterMap hpart, hvisits,
      List.flatMap_map]
    simp only [Extraction.ofVisit_pruned hall rfl]
  · intro statement hgone
    exact absurd (hall statement) (by simp [hgone])

/-! ### Namespaces around statements -/

/-- A namespace, and the statements beside it. -/
structure Enclosure where
  before : List Stmt
  /-- The stretch of the export, if the namespace is exported. -/
  exportSpan : Option Span
  span : Span
  after : List Stmt

/-- The namespace with a body. -/
def Enclosure.statement (place : Enclosure) (body : List Stmt) : Stmt :=
  match place.exportSpan with
  | none => .declaration (.namespaceDecl place.span body)
  | some outer => .exported outer (some (.namespaceDecl place.span body))

/-- Statements inside a namespace, with the statements beside it. -/
def Enclosure.around (place : Enclosure) (body : List Stmt) : List Stmt :=
  place.before ++ place.statement body :: place.after

/-- Statements inside namespaces that stand in each other, the outermost first. -/
def enclosed (places : List Enclosure) (body : List Stmt) : List Stmt :=
  places.foldr Enclosure.around body

section Enclosures

variable {body other : List Stmt}

theorem Enclosure.typeStatements_around (place : Enclosure) (body : List Stmt) :
    typeStatements (place.around body) =
      typeStatements place.before ++ typeStatements place.after := by
  have hstatement : (place.statement body).declaresType = false := by
    unfold Enclosure.statement
    split <;> rfl
  simp [typeStatements, Enclosure.around, hstatement]

/-- At the top it makes no difference whether a namespace is exported. -/
theorem Enclosure.visitsOf_around_file (place : Enclosure) (body : List Stmt) :
    visitsOf .file (place.around body) = visitsOf .file place.before ++
      visitsOf .inNamespace body ++ visitsOf .file place.after := by
  have hstatement : (place.statement body).visits .file =
      visitsOf .inNamespace body := by
    unfold Enclosure.statement
    split <;> simp [Stmt.visits, Decl.visits]
  simp [Enclosure.around, visitsOf_eq_flatMap, hstatement]

theorem Enclosure.visitsOf_around (place : Enclosure) (scope : Scope)
    (hbody : visitsOf .inNamespace body = visitsOf .inNamespace other) :
    visitsOf scope (place.around body) = visitsOf scope (place.around other) := by
  have hstatement : (place.statement body).visits scope =
      (place.statement other).visits scope := by
    unfold Enclosure.statement
    split <;> simp [Stmt.visits, Decl.visits, hbody]
  simp [Enclosure.around, visitsOf_eq_flatMap, hstatement]

/-- Bodies with the same visits can stand for each other at every depth. -/
theorem rawDocument_enclosed
    (hbody : visitsOf .inNamespace body = visitsOf .inNamespace other)
    (text : String) (docs : OrderedMap Nat Span) (options : Options)
    (place : Enclosure) (places : List Enclosure) :
    File.rawDocument ⟨text, enclosed (place :: places) body, docs⟩ options =
      File.rawDocument ⟨text, enclosed (place :: places) other, docs⟩ options := by
  have hinner : visitsOf .inNamespace (enclosed places body) =
      visitsOf .inNamespace (enclosed places other) := by
    induction places with
    | nil => exact hbody
    | cons inner places ih => exact inner.visitsOf_around .inNamespace ih
  apply rawDocument_eq_of_visits
  · exact place.visitsOf_around .file hinner
  · exact (place.typeStatements_around _).trans
      (place.typeStatements_around _).symm

end Enclosures

/-! ### Exported statements brought to the top -/

mutual

/-- A declaration in its statement, or what it shows if it is a namespace. -/
def Source.Decl.hoisted (whole : Stmt) : Decl → List Stmt
  | .namespaceDecl _ statements => hoistedOf .inNamespace statements
  | _ => [whole]

/-- A statement if it can be seen, or what it shows if it is a namespace. -/
def Source.Stmt.hoisted (scope : Scope) : Stmt → List Stmt
  | .exported span (some value) => value.hoisted (.exported span (some value))
  | .exportedDefault span value => [.exportedDefault span value]
  | .declaration value =>
      if scope = .file then value.hoisted (.declaration value) else []
  | .expression span value =>
      if scope = .file then [.expression span value] else []
  | _ => []

/-- The statements that can be seen, without the namespaces around them. -/
def hoistedOf (scope : Scope) : List Stmt → List Stmt
  | [] => []
  | statement :: statements =>
      statement.hoisted scope ++ hoistedOf scope statements

end

mutual

theorem visitsOf_hoisted_of_decl {whole : Stmt} {anchor : Nat} (value : Decl)
    (hwhole : whole.visits .file = value.visits anchor) :
    visitsOf .file (value.hoisted whole) = value.visits anchor := by
  cases value with
  | namespaceDecl span statements =>
      simp only [Decl.hoisted, Decl.visits]
      exact visitsOf_hoistedOf .inNamespace statements
  | _ =>
      rw [← hwhole]
      simp [Decl.hoisted, visitsOf]

theorem visitsOf_hoisted_of_stmt (scope : Scope) (statement : Stmt) :
    visitsOf .file (statement.hoisted scope) = statement.visits scope := by
  cases statement with
  | declaration value =>
      simp only [Stmt.hoisted, Stmt.visits]
      split
      · apply visitsOf_hoisted_of_decl
        simp [Stmt.visits]
      · simp [visitsOf]
  | exported span value =>
      cases value with
      | none => simp [Stmt.hoisted, Stmt.visits, visitsOf]
      | some value =>
          simp only [Stmt.hoisted, Stmt.visits]
          apply visitsOf_hoisted_of_decl
          simp [Stmt.visits]
  | exportedDefault span value => simp [Stmt.hoisted, Stmt.visits, visitsOf]
  | expression span value =>
      simp only [Stmt.hoisted, Stmt.visits]
      split <;> simp [visitsOf, Stmt.visits]
  | other span parts => simp [Stmt.hoisted, Stmt.visits, visitsOf]

/-- What is brought to the top is visited there. -/
theorem visitsOf_hoistedOf (scope : Scope) (statements : List Stmt) :
    visitsOf .file (hoistedOf scope statements) = visitsOf scope statements := by
  cases statements with
  | nil => simp [hoistedOf, visitsOf]
  | cons statement statements =>
      simp only [hoistedOf, visitsOf, visitsOf_append]
      rw [visitsOf_hoisted_of_stmt scope statement,
        visitsOf_hoistedOf scope statements]

end

/--
Namespaces expose exactly their exported statements, at every depth. Statements
that are not exported can be taken out of the bodies of all namespaces, wherever
these stand in the tree outside of `extends` clauses and annotations, and the
document stays the same; whereas what is exported shows the components, default
values and diagnostics that it would show at the top. Without any namespace the
shapes are the same. At the top a namespace shows the same whether it is exported
or not, and inside another one, at any depth, it shows nothing if it is not.
-/
theorem namespaces_expose_their_exports (text : String)
    (docs : OrderedMap Nat Span) (options : Options) (statements : List Stmt) :
    let document := fun statements =>
      File.rawDocument ⟨text, statements, docs⟩ options
    (∀ dropped : Stmt → Bool,
      document (prunedStmts (.hiding dropped false) statements) =
        document statements) ∧
    ((document (hoistedOf .file statements)).components =
        (document statements).components ∧
      (document (hoistedOf .file statements)).defaults =
        (document statements).defaults ∧
      (document (hoistedOf .file statements)).diagnostics =
        (document statements).diagnostics) ∧
    (document (prunedStmts .namespaces statements)).shapes =
      (document statements).shapes ∧
    (∀ (before after body : List Stmt) (outer span plain : Span),
      document (Enclosure.around ⟨before, some outer, span, after⟩ body) =
        document (Enclosure.around ⟨before, none, plain, after⟩ body)) ∧
    ∀ (place : Enclosure) (places : List Enclosure) (front back : List Stmt)
      (span : Span) (body : List Stmt),
      document (enclosed (place :: places)
          (front ++ .declaration (.namespaceDecl span body) :: back)) =
        document (enclosed (place :: places) (front ++ back)) := by
  intro document
  have hhoisted := visitsOf_hoistedOf .file statements
  refine ⟨?_, ⟨?_, ?_, ?_⟩, ?_, ?_, ?_⟩
  · intro dropped
    exact rawDocument_hiding dropped text docs options statements
  · simp only [document, File.rawDocument, RawDocument.components_ofFindings,
      findings_filterMap Finding.component?_apartFromShapes, hhoisted]
  · simp only [document, File.rawDocument, RawDocument.defaults_ofFindings,
      findings_filterMap Finding.defaults?_apartFromShapes, hhoisted]
  · simp only [document, File.rawDocument, RawDocument.diagnostics_ofFindings,
      findings_filterMap Finding.problem?_apartFromShapes, hhoisted]
  · apply shapes_pruned
    intro statement hgone
    apply shape?_of_isNamespace
    simpa [Pruning.namespaces] using hgone
  · intro before after body outer span plain
    apply rawDocument_eq_of_visits
    · rw [Enclosure.visitsOf_around_file, Enclosure.visitsOf_around_file]
    · rw [Enclosure.typeStatements_around, Enclosure.typeStatements_around]
  · intro place places front back span body
    apply rawDocument_enclosed
    simp [visitsOf_eq_flatMap, Stmt.visits]

/-- A class whose clause holds a function with a namespace in it. -/
def derivedFromCall : String :=
  "class C extends f(function()\x7bnamespace N\x7bA\x7d\x7d)\x7b\x7d"

theorem hidden_statement_of_derivedFromCall_is_read :
    ∃ file, File.parse? "C.tsx" derivedFromCall = some file ∧
      (file.rawDocument .default).components =
        [⟨"C", .classBased, some "f", some "A", ""⟩] ∧
      (File.rawDocument ⟨file.text, prunedStmts (.hiding (fun _ => true) true)
        file.statements, file.docs⟩ .default).components =
        [⟨"C", .classBased, some "f", none, ""⟩] := by
  have hparsed : (File.parse? "C.tsx" derivedFromCall).map (fun file =>
      ((file.rawDocument .default).components,
        (File.rawDocument ⟨file.text, prunedStmts (.hiding (fun _ => true) true)
          file.statements, file.docs⟩ .default).components)) =
      some ([⟨"C", .classBased, some "f", some "A", ""⟩],
        [⟨"C", .classBased, some "f", none, ""⟩]) := by
    decide +kernel
  obtain ⟨file, hparse, hfacts⟩ := Option.map_eq_some_iff.mp hparsed
  exact ⟨file, hparse, Prod.mk.inj hfacts⟩

end ComponentDocs
