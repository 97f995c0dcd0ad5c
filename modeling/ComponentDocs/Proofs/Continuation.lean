import ComponentDocs.Proofs.Findings
import ComponentDocs.Proofs.Slices
import ComponentDocs.Proofs.Spans
import Mathlib.Data.List.Basic

/-!
Files that go on.

A file goes on as another one when text and statements are added at its end and
its own nodes keep their places and comments. What is read from an old node is
then the same in both files. So every old statement shows what it showed, except
for the members of shapes, which depend on all statements of the file.
-/

namespace ComponentDocs

open Source

namespace Source.File

/-- The stretches that the nodes of a file cover. -/
def spans (file : File) : List Span :=
  spansOfStmts file.statements

/-- The number of bytes of a file's text. -/
def size (file : File) : Nat :=
  Text.width file.text.toList

/--
A file goes on as another one. Statements are added at the end, and text to the
right of all nodes that were there and of their comments; these nodes keep their
stretches and their comments.
-/
structure Continues (file whole : File) (later : List Stmt) : Prop where
  text : ∃ tail, whole.text = file.text ++ tail
  statements : whole.statements = file.statements ++ later
  inside : ∀ span ∈ file.spans, span.stop ≤ file.size
  comments : ∀ span ∈ file.spans,
    whole.docs.get? span.start = file.docs.get? span.start
  commentsInside : ∀ span ∈ file.spans,
    ∀ comment ∈ file.docs.get? span.start, comment.stop ≤ file.size

end Source.File

/-! ### What is read from the nodes that were there -/

section Reading

variable {file whole : File} {later : List Stmt}

theorem slice_of_continues (hwhole : file.Continues whole later) {span : Span}
    (hstop : span.stop ≤ file.size) :
    Text.slice whole.text span = Text.slice file.text span := by
  obtain ⟨tail, htail⟩ := hwhole.text
  rw [htail]
  exact Text.slice_append hstop tail

theorem textOf_of_continues (hwhole : file.Continues whole later) {span : Span}
    (hstop : span.stop ≤ file.size) : whole.textOf span = file.textOf span := by
  simp only [File.textOf, Text.textAt, slice_of_continues hwhole hstop]

/-- Nodes that were there have the comments that they had. -/
theorem comment_of_continues (hwhole : file.Continues whole later)
    (anchors : List Nat) (hanchors : anchors ⊆ file.spans.map Span.start) :
    whole.comment anchors = file.comment anchors := by
  have hsame : anchors.findSome? whole.docs.get? =
      anchors.findSome? file.docs.get? := by
    rw [← List.head?_filterMap, ← List.head?_filterMap]
    refine congrArg List.head? (List.filterMap_congr fun anchor hanchor => ?_)
    obtain ⟨span, hspan, rfl⟩ := List.mem_map.mp (hanchors hanchor)
    exact hwhole.comments span hspan
  simp only [File.comment, commentAt, hsame]
  cases hfound : anchors.findSome? file.docs.get? with
  | none => rfl
  | some comment =>
      obtain ⟨anchor, hanchor, hget⟩ := List.exists_of_findSome?_eq_some hfound
      obtain ⟨span, hspan, rfl⟩ := List.mem_map.mp (hanchors hanchor)
      have hstop := hwhole.commentsInside span hspan comment hget
      simp only [Text.textAt, slice_of_continues hwhole hstop]

theorem typeTextOf_of_continues (hwhole : file.Continues whole later)
    {declaredType : Option TypeExpr}
    (hspans : spansOfType? declaredType ⊆ file.spans) :
    typeTextOf whole declaredType = typeTextOf file declaredType := by
  cases declaredType with
  | none => rfl
  | some type =>
      have hread : ∀ span ∈ type.spans, whole.textOf span = file.textOf span :=
        fun span hspan => textOf_of_continues hwhole
          (hwhole.inside span (hspans (by simpa [spansOfType?] using hspan)))
      have hplain := hread type.span type.span_mem_spans
      cases hcore : type.core with
      | union span alternatives =>
          have hvalues : ∀ alternative ∈ alternatives,
              whole.textOf alternative.span = file.textOf alternative.span := by
            intro alternative halternative
            refine hread _ (type.core_spans_subset ?_)
            rw [hcore, TypeExpr.spans]
            exact List.mem_cons_of_mem _
              (TypeExpr.spans_subset halternative alternative.span_mem_spans)
          have hmap : alternatives.map (fun alternative =>
                Text.trimmed (whole.textOf alternative.span)) =
              alternatives.map (fun alternative =>
                Text.trimmed (file.textOf alternative.span)) :=
            List.map_congr_left fun alternative halternative => by
              rw [hvalues alternative halternative]
          simp only [typeTextOf, hcore, hplain, hmap]
      | reference => simp only [typeTextOf, hcore, hplain]
      | parenthesized => simp only [typeTextOf, hcore, hplain]
      | literal => simp only [typeTextOf, hcore, hplain]
      | compound => simp only [typeTextOf, hcore, hplain]

/-- A signature that was there declares the member that it declared. -/
theorem memberOf?_of_continues (hwhole : file.Continues whole later)
    {signature : Signature} (hspans : signature.spans ⊆ file.spans) :
    memberOf? whole signature = memberOf? file signature := by
  cases signature with
  | property span key optional declaredType =>
      simp only [Signature.spans, List.cons_append, List.cons_subset,
        List.append_subset] at hspans
      obtain ⟨hspan, _, htype⟩ := hspans
      have hcomment := comment_of_continues hwhole [span.start]
        (by simpa using List.mem_map_of_mem hspan)
      simp only [memberOf?, typeTextOf_of_continues hwhole htype, hcomment]
  | method span key optional parts =>
      simp only [Signature.spans, List.cons_append, List.cons_subset,
        List.append_subset] at hspans
      obtain ⟨hspan, _, _⟩ := hspans
      have hcomment := comment_of_continues hwhole [span.start]
        (by simpa using List.mem_map_of_mem hspan)
      have htext : whole.textOf ⟨key.span.stop, span.stop⟩ =
          file.textOf ⟨key.span.stop, span.stop⟩ :=
        textOf_of_continues hwhole (hwhole.inside span hspan)
      simp only [memberOf?, htext, hcomment]
  | other parts => rfl

/-- A block of statements lies inside the function that it belongs to. -/
theorem spansOfStmts_blockStatements?_subset {value : Expr}
    {statements : List Stmt} (hblock : value.blockStatements? = some statements) :
    spansOfStmts statements ⊆ value.spans := by
  cases value with
  | function span value =>
      obtain ⟨name, head, params, rest, result, body⟩ := value
      cases body with
      | block inside =>
          simp only [Expr.blockStatements?, Option.some.injEq] at hblock
          subst hblock
          simp only [Expr.spans, Function.spans, Body.spans]
          exact List.subset_cons_of_subset span (List.subset_append_right _ _)
      | expression value => simp [Expr.blockStatements?] at hblock
      | absent => simp [Expr.blockStatements?] at hblock
  | _ => simp [Expr.blockStatements?] at hblock

theorem valueText_of_continues (hwhole : file.Continues whole later)
    {value : Expr} (hspans : value.spans ⊆ file.spans) :
    valueText whole.text value = valueText file.text value := by
  have hslice := slice_of_continues hwhole
    (hwhole.inside _ (hspans value.span_mem_spans))
  have hblock : ∀ statements, value.blockStatements? = some statements →
      statementsText whole.text statements =
        statementsText file.text statements := by
    intro statements hstatements
    have hsubset : ∀ statement ∈ statements, statement.span ∈ file.spans := by
      intro statement hstatement
      exact hspans (spansOfStmts_blockStatements?_subset hstatements
        (Stmt.spans_subset hstatement statement.span_mem_spans))
    unfold statementsText
    split
    · rename_i first last _ hlast
      have hstop := hwhole.inside last.span
        (hsubset last (List.mem_of_getLast? hlast))
      exact slice_of_continues hwhole hstop
    · rfl
  unfold valueText
  cases hliteral : value.literalText? with
  | some text => rfl
  | none =>
      cases hstatements : value.blockStatements? with
      | none => simp only [hslice]
      | some statements => simp only [hblock statements hstatements]

theorem outcome_of_continues (hwhole : file.Continues whole later)
    {entry : Entry} (hspans : entry.spans ⊆ file.spans) :
    EntryOutcome.of whole.text entry = EntryOutcome.of file.text entry := by
  cases entry with
  | spread value => rfl
  | property key value =>
      simp only [Entry.spans, List.append_subset] at hspans
      simp only [EntryOutcome.of, valueText_of_continues hwhole hspans.2]

/-- An initializer that was there gives the defaults that it gave. -/
theorem defaultFindings_of_continues (hwhole : file.Continues whole later)
    (owner : String) {initializer : Expr}
    (hspans : initializer.spans ⊆ file.spans) :
    Extraction.defaultFindings whole.text owner initializer =
      Extraction.defaultFindings file.text owner initializer := by
  have hread : Defaults.read whole.text owner initializer =
      Defaults.read file.text owner initializer := by
    unfold Defaults.read
    split
    · rename_i span entries hcore
      have hentries : ∀ entry ∈ entries, entry.spans ⊆ file.spans := by
        intro entry hentry
        refine List.Subset.trans ?_
          (List.Subset.trans initializer.core_spans_subset hspans)
        rw [hcore, Expr.spans]
        exact List.subset_cons_of_subset span (Entry.spans_subset hentry)
      rw [List.map_congr_left fun entry hentry =>
        outcome_of_continues hwhole (hentries entry hentry)]
    · rfl
  simp only [Extraction.defaultFindings, hread]

theorem memberFindings_of_continues (hwhole : file.Continues whole later)
    (owner : String) {member : ClassMember}
    (hspans : member.spans ⊆ file.spans) :
    Extraction.memberFindings whole.text owner member =
      Extraction.memberFindings file.text owner member := by
  unfold Extraction.memberFindings
  split
  · split
    · split
      · rename_i value
        simp only [ClassMember.spans, spansOfExpr?, List.append_subset] at hspans
        exact defaultFindings_of_continues hwhole owner hspans.2
      · rfl
    · rfl
  · rfl

end Reading

/-! ### What the statements that were there show -/

section Showing

variable {file whole : File} {later : List Stmt} {options : Options}
variable {table wholeTable : ShapeTable}

theorem ofClass_of_continues (hwhole : file.Continues whole later)
    {anchor : Nat} {value : ClassNode}
    (hanchor : anchor ∈ file.spans.map Span.start)
    (hspans : value.spans ⊆ file.spans) :
    Extraction.ofClass ⟨whole, options, wholeTable⟩ anchor value =
      Extraction.ofClass ⟨file, options, table⟩ anchor value := by
  have hcomment := comment_of_continues hwhole [anchor, value.span.start] (by
    simpa [hanchor] using
      List.mem_map_of_mem (f := Span.start) (hspans value.span_mem_spans))
  have hmembers : ∀ owner,
      value.members.flatMap (Extraction.memberFindings whole.text owner) =
        value.members.flatMap (Extraction.memberFindings file.text owner) := by
    intro owner
    refine List.flatMap_congr fun member hmember => ?_
    refine memberFindings_of_continues hwhole owner
      (List.Subset.trans (ClassMember.spans_subset hmember)
        (List.Subset.trans ?_ hspans))
    cases value
    simp only [ClassNode.spans]
    exact List.subset_append_right _ _
  simp only [Extraction.ofClass, hcomment, hmembers]

theorem parameterType?_of_continues (hwhole : file.Continues whole later)
    {value : Function} (hspans : value.spans ⊆ file.spans) :
    Extraction.parameterType? ⟨whole, options, wholeTable⟩ value =
      Extraction.parameterType? ⟨file, options, table⟩ value := by
  obtain ⟨name, head, params, rest, result, body⟩ := value
  unfold Extraction.parameterType?
  split
  · rename_i param hparams _
    simp only at hparams
    subst hparams
    obtain ⟨decorators, pattern, declaredType, default⟩ := param
    split
    · rename_i outer nameSpan names arguments htype _
      simp only at htype
      subst htype
      have hname : nameSpan ∈ file.spans := hspans (by
        simp [Function.spans, spansOfParams, Param.spans, spansOfType?,
          TypeExpr.spans])
      simp only [textOf_of_continues hwhole (hwhole.inside nameSpan hname)]
    · rfl
  · rfl

theorem ofFunction_of_continues (hwhole : file.Continues whole later)
    {anchor : Nat} {span : Span}
    {value : Function} (hanchor : anchor ∈ file.spans.map Span.start)
    (hspan : span ∈ file.spans) (hspans : value.spans ⊆ file.spans) :
    Extraction.ofFunction ⟨whole, options, wholeTable⟩ anchor span value =
      Extraction.ofFunction ⟨file, options, table⟩ anchor span value := by
  have hcomment := comment_of_continues hwhole [anchor, span.start] (by
    simpa [hanchor] using List.mem_map_of_mem (f := Span.start) hspan)
  have hparameter : Extraction.parameterType? ⟨whole, options, wholeTable⟩ value =
      Extraction.parameterType? ⟨file, options, table⟩ value :=
    parameterType?_of_continues hwhole hspans
  simp only [Extraction.ofFunction, Extraction.functionComponent, hcomment,
    hparameter]

theorem ofDeclarator_of_continues (hwhole : file.Continues whole later)
    {anchor : Nat} {span : Span}
    {binding : Declarator} (hanchor : anchor ∈ file.spans.map Span.start)
    (hspan : span ∈ file.spans) (hspans : binding.spans ⊆ file.spans) :
    Extraction.ofDeclarator ⟨whole, options, wholeTable⟩ anchor span.start
        binding =
      Extraction.ofDeclarator ⟨file, options, table⟩ anchor span.start
        binding := by
  obtain ⟨inside, pattern, declaredType, value⟩ := binding
  simp only [Declarator.spans, List.cons_append, List.cons_subset,
    List.append_subset] at hspans
  obtain ⟨hinside, _, hvalue⟩ := hspans
  have hcomment := comment_of_continues hwhole
    [anchor, span.start, inside.start] (by
      simpa [hanchor] using And.intro
        (List.mem_map_of_mem (f := Span.start) hspan)
        (List.mem_map_of_mem (f := Span.start) hinside))
  have hparameter : ∀ initial place function, value = some initial →
      initial.core = .function place function →
      Extraction.parameterType? ⟨whole, options, wholeTable⟩ function =
        Extraction.parameterType? ⟨file, options, table⟩ function := by
    rintro initial place function rfl hcore
    refine parameterType?_of_continues hwhole (List.Subset.trans ?_
      (List.Subset.trans initial.core_spans_subset
        (by simpa [spansOfExpr?] using hvalue)))
    rw [hcore, Expr.spans]
    exact List.subset_cons_self place _
  unfold Extraction.ofDeclarator
  split
  · rename_i name initial _ hinitial
    simp only [Extraction.componentType?, Extraction.functionComponent, hcomment]
    split
    · rfl
    · split
      · rename_i place function hcore
        rw [hparameter initial place function hinitial hcore]
      · rfl
  · rfl

theorem ofExpression_of_continues (hwhole : file.Continues whole later)
    {value : Expr} (hspans : value.spans ⊆ file.spans) :
    Extraction.ofExpression ⟨whole, options, wholeTable⟩ value =
      Extraction.ofExpression ⟨file, options, table⟩ value := by
  unfold Extraction.ofExpression
  split
  · rename_i span inside owner initializer
    simp only [Expr.spans, List.cons_append, List.cons_subset,
      List.append_subset] at hspans
    obtain ⟨_, _, howner, hvalue⟩ := hspans
    have htext := textOf_of_continues hwhole
      (hwhole.inside _ (howner owner.span_mem_spans))
    rw [defaultFindings_of_continues hwhole _ hvalue]
    cases owner with
    | identifier place name => rfl
    | _ => simp only [htext]
  · rfl

mutual

/-- Shapes apart, a declaration that was there shows what it showed. -/
theorem ofDecl_of_continues {α : Type} {part : Finding → Option α}
    (hpart : Finding.ApartFromShapes part)
    (hwhole : file.Continues whole later) (scope : Scope) {anchor : Nat}
    (value : Decl) (hanchor : anchor ∈ file.spans.map Span.start)
    (hspans : value.spans ⊆ file.spans) :
    (Extraction.ofDecl ⟨whole, options, wholeTable⟩ scope anchor value).filterMap
        part =
      (Extraction.ofDecl ⟨file, options, table⟩ scope anchor value).filterMap
        part := by
  cases value with
  | classDecl value =>
      simp only [Extraction.ofDecl]
      rw [ofClass_of_continues hwhole hanchor
        (by simpa [Decl.spans] using hspans)]
  | functionDecl span value =>
      simp only [Decl.spans, List.cons_subset] at hspans
      simp only [Extraction.ofDecl]
      rw [ofFunction_of_continues hwhole hanchor hspans.1 hspans.2]
  | variableDecl span bindings =>
      simp only [Decl.spans, List.cons_subset] at hspans
      simp only [Extraction.ofDecl]
      rw [List.flatMap_congr fun binding hbinding =>
        ofDeclarator_of_continues hwhole hanchor hspans.1
          (List.Subset.trans (Declarator.spans_subset hbinding) hspans.2)]
  | interfaceDecl span name generics bases members =>
      simp only [Extraction.ofDecl]
      split
      · rw [Extraction.shapeFindings_apart _ hpart,
          Extraction.shapeFindings_apart _ hpart]
      · rfl
  | aliasDecl span name generics type =>
      simp only [Extraction.ofDecl]
      split
      · split
        · rw [Extraction.shapeFindings_apart _ hpart,
            Extraction.shapeFindings_apart _ hpart]
        · rfl
      · rfl
  | namespaceDecl span statements =>
      simp only [Decl.spans, List.cons_subset] at hspans
      simp only [Extraction.ofDecl]
      exact ofStatements_of_continues hpart hwhole .inNamespace
        statements hspans.2
  | other span parts => simp only [Extraction.ofDecl]

theorem ofStatement_of_continues {α : Type} {part : Finding → Option α}
    (hpart : Finding.ApartFromShapes part)
    (hwhole : file.Continues whole later) (scope : Scope) (statement : Stmt)
    (hspans : statement.spans ⊆ file.spans) :
    (Extraction.ofStatement ⟨whole, options, wholeTable⟩ scope
        statement).filterMap part =
      (Extraction.ofStatement ⟨file, options, table⟩ scope
        statement).filterMap part := by
  cases statement with
  | declaration value =>
      simp only [Stmt.spans] at hspans
      simp only [Extraction.ofStatement]
      split
      · exact ofDecl_of_continues hpart hwhole scope value
          (List.mem_map_of_mem (hspans value.span_mem_spans)) hspans
      · rfl
  | exported span value =>
      cases value with
      | none => simp only [Extraction.ofStatement]
      | some value =>
          simp only [Stmt.spans, List.cons_subset] at hspans
          simp only [Extraction.ofStatement]
          exact ofDecl_of_continues hpart hwhole scope value
            (List.mem_map_of_mem hspans.1) hspans.2
  | exportedDefault span value =>
      simp only [Stmt.spans, List.cons_subset] at hspans
      simp only [Extraction.ofStatement]
      exact ofDecl_of_continues hpart hwhole scope value
        (List.mem_map_of_mem hspans.1) hspans.2
  | expression span value =>
      simp only [Stmt.spans, List.cons_subset] at hspans
      simp only [Extraction.ofStatement]
      rw [ofExpression_of_continues hwhole hspans.2]
  | other span parts => simp only [Extraction.ofStatement]

theorem ofStatements_of_continues {α : Type} {part : Finding → Option α}
    (hpart : Finding.ApartFromShapes part)
    (hwhole : file.Continues whole later) (scope : Scope)
    (statements : List Stmt) (hspans : spansOfStmts statements ⊆ file.spans) :
    (Extraction.ofStatements ⟨whole, options, wholeTable⟩ scope
        statements).filterMap part =
      (Extraction.ofStatements ⟨file, options, table⟩ scope
        statements).filterMap part := by
  cases statements with
  | nil => simp only [Extraction.ofStatements]
  | cons statement statements =>
      simp only [spansOfStmts, List.append_subset] at hspans
      simp only [Extraction.ofStatements, List.filterMap_append]
      rw [ofStatement_of_continues hpart hwhole scope statement hspans.1,
        ofStatements_of_continues hpart hwhole scope statements hspans.2]

end

end Showing

end ComponentDocs
