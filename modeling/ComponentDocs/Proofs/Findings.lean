import ComponentDocs.Extraction
import ComponentDocs.Proofs.OrderedMap

/-!
What findings add up to, and which shapes are found.

A document that grows by findings keeps its four parts apart: each part is a
function of the findings of its own kind. For shapes this rests on an invariant,
that no two shapes of a document have the same name. The shapes that a file's
statements show are then those of its table, by name and with the members that
resolution gives to that name.
-/

namespace ComponentDocs

open Source

/-! ### The parts of a document -/

/-- The component that a finding adds. -/
def Finding.component? : Finding → Option Component
  | .component value => some value
  | _ => none

/-- The shape that a finding adds. -/
def Finding.shape? : Finding → Option PropShape
  | .shape value => some value
  | _ => none

/-- The default values that a finding adds. -/
def Finding.defaults? : Finding → Option (OrderedMap String String)
  | .defaults values => some values
  | _ => none

/-- A part of a document that neither components nor notes belong to. -/
def Finding.ApartFromComponents {α : Type} (part : Finding → Option α) : Prop :=
  (∀ value, part (.component value) = none) ∧ ∀ value, part (.note value) = none

/-- A part of a document that neither shapes nor notes belong to. -/
def Finding.ApartFromShapes {α : Type} (part : Finding → Option α) : Prop :=
  (∀ value, part (.shape value) = none) ∧ ∀ value, part (.note value) = none

theorem Finding.shape?_apartFromComponents : ApartFromComponents shape? :=
  ⟨fun _ => rfl, fun _ => rfl⟩

theorem Finding.defaults?_apartFromComponents : ApartFromComponents defaults? :=
  ⟨fun _ => rfl, fun _ => rfl⟩

theorem Finding.component?_apartFromShapes : ApartFromShapes component? :=
  ⟨fun _ => rfl, fun _ => rfl⟩

theorem Finding.defaults?_apartFromShapes : ApartFromShapes defaults? :=
  ⟨fun _ => rfl, fun _ => rfl⟩

namespace RawDocument

theorem ofFindings_concat (findings : List Finding) (finding : Finding) :
    ofFindings (findings ++ [finding]) = (ofFindings findings).add finding := by
  simp [ofFindings]

theorem components_ofFindings (findings : List Finding) :
    (ofFindings findings).components =
      findings.filterMap Finding.component? := by
  induction findings using List.reverseRecOn with
  | nil => rfl
  | append_singleton findings finding ih =>
      rw [ofFindings_concat, List.filterMap_append, ← ih]
      cases finding <;> simp [add, addComponent, insertShape, mergeDefaults,
        report, Finding.component?]

/-- The default values are those of all findings, one after the other. -/
theorem defaults_ofFindings (findings : List Finding) :
    (ofFindings findings).defaults =
      OrderedMap.ofList
        ((findings.filterMap Finding.defaults?).flatMap OrderedMap.entries) := by
  induction findings using List.reverseRecOn with
  | nil => rfl
  | append_singleton findings finding ih =>
      rw [ofFindings_concat, List.filterMap_append, List.flatMap_append,
        OrderedMap.ofList, OrderedMap.insertAll_append, ← OrderedMap.ofList, ← ih]
      cases finding <;> simp [add, addComponent, insertShape, mergeDefaults,
        report, Finding.defaults?, OrderedMap.insertAll, List.filterMap_cons]

/-- No two shapes have the same name. -/
def DistinctShapes (document : RawDocument) : Prop :=
  (document.shapes.map PropShape.name).Nodup

/-- Erasing the only shape of a name leaves none of that name. -/
theorem name_ne_of_mem_eraseP {shapes : List PropShape} {name : String}
    (hdistinct : (shapes.map PropShape.name).Nodup) {shape : PropShape}
    (hshape : shape ∈ shapes.eraseP (fun shape => shape.name = name)) :
    shape.name ≠ name := by
  induction shapes with
  | nil => simp at hshape
  | cons first rest ih =>
      rw [List.map_cons, List.nodup_cons] at hdistinct
      by_cases hfirst : first.name = name
      · rw [List.eraseP_cons_of_pos (by simpa using hfirst)] at hshape
        intro heq
        exact hdistinct.1 (List.mem_map.mpr ⟨shape, hshape, heq.trans hfirst.symm⟩)
      · rw [List.eraseP_cons_of_neg (by simpa using hfirst)] at hshape
        rcases List.mem_cons.mp hshape with rfl | hrest
        · exact hfirst
        · exact ih hdistinct.2 hrest

theorem insertShape_distinctShapes {document : RawDocument}
    (hdistinct : document.DistinctShapes) (value : PropShape) :
    (document.insertShape value).DistinctShapes := by
  have hkept : (document.shapes.eraseP
      (fun shape => shape.name = value.name)).Sublist document.shapes :=
    List.eraseP_sublist
  simp only [DistinctShapes, insertShape, List.map_append]
  refine List.nodup_append.mpr
    ⟨(hkept.map PropShape.name).nodup hdistinct, by simp, ?_⟩
  intro name hname other hother heq
  rw [List.map_singleton, List.mem_singleton] at hother
  obtain ⟨shape, hshape, hsame⟩ := List.mem_map.mp hname
  exact name_ne_of_mem_eraseP hdistinct hshape
    (hsame.trans (heq.trans hother))

/-- Inserting a shape changes the look-up of its own name only. -/
theorem shape?_insertShape {document : RawDocument}
    (hdistinct : document.DistinctShapes) (value : PropShape) (name : String) :
    (document.insertShape value).shape? name =
      if value.name = name then some value else document.shape? name := by
  simp only [shape?, insertShape, List.find?_append]
  by_cases hname : value.name = name
  · have hnone : (document.shapes.eraseP
        (fun shape => shape.name = value.name)).find?
          (fun shape => shape.name = name) = none := by
      rw [List.find?_eq_none]
      intro shape hshape
      simpa [← hname] using name_ne_of_mem_eraseP hdistinct hshape
    rw [hnone]
    simp [hname]
  · have hkept : (document.shapes.eraseP
        (fun shape => shape.name = value.name)).find?
          (fun shape => shape.name = name) =
        document.shapes.find? (fun shape => shape.name = name) := by
      generalize document.shapes = shapes
      induction shapes with
      | nil => rfl
      | cons first rest ih =>
          by_cases hfirst : first.name = value.name
          · have hne : first.name ≠ name := fun heq => hname (hfirst ▸ heq)
            rw [List.eraseP_cons_of_pos (by simpa using hfirst),
              List.find?_cons_of_neg (by simpa using hne)]
          · rw [List.eraseP_cons_of_neg (by simpa using hfirst),
              List.find?_cons, List.find?_cons, ih]
    rw [hkept]
    simp [hname]

theorem add_of_shape?_eq_some {finding : Finding} {value : PropShape}
    (hshape : finding.shape? = some value) (document : RawDocument) :
    document.add finding = document.insertShape value := by
  cases finding <;> simp_all [Finding.shape?, add]

theorem shapes_add_of_shape?_eq_none {finding : Finding}
    (hshape : finding.shape? = none) (document : RawDocument) :
    (document.add finding).shapes = document.shapes := by
  cases finding with
  | shape value => simp [Finding.shape?] at hshape
  | component value => rfl
  | defaults values => rfl
  | problem value => rfl
  | note value => rfl

theorem ofFindings_distinctShapes (findings : List Finding) :
    (ofFindings findings).DistinctShapes := by
  induction findings using List.reverseRecOn with
  | nil => exact List.nodup_nil
  | append_singleton findings finding ih =>
      rw [ofFindings_concat]
      cases hshape : finding.shape? with
      | none =>
          rw [DistinctShapes, shapes_add_of_shape?_eq_none hshape]
          exact ih
      | some value =>
          rw [add_of_shape?_eq_some hshape]
          exact insertShape_distinctShapes ih value

/-- The shape of a name is the last one that was found under it. -/
theorem shape?_ofFindings (findings : List Finding) (name : String) :
    (ofFindings findings).shape? name =
      (findings.filterMap Finding.shape?).reverse.find?
        (fun shape => shape.name = name) := by
  induction findings using List.reverseRecOn with
  | nil => rfl
  | append_singleton findings finding ih =>
      rw [ofFindings_concat, List.filterMap_append]
      cases hshape : finding.shape? with
      | none =>
          rw [shape?, shapes_add_of_shape?_eq_none hshape, ← shape?, ih]
          simp [hshape]
      | some value =>
          rw [add_of_shape?_eq_some hshape,
            shape?_insertShape (ofFindings_distinctShapes findings), ih]
          by_cases hname : value.name = name <;> simp [hshape, hname]

end RawDocument

/-! ### The shapes that statements show -/

/-- Where the comment of a shape may stand, with the offset of its statement. -/
def Source.Decl.commentAnchors (anchor : Nat) : Decl → List Nat
  | .interfaceDecl span _ _ _ _ => [anchor, span.start]
  | _ => [anchor]

/-- Where the comment of a shape may stand that a statement declares. -/
def Source.Stmt.commentAnchors : Stmt → List Nat
  | .declaration value => value.commentAnchors value.span.start
  | .exported span (some value) => value.commentAnchors span.start
  | .exportedDefault span value => value.commentAnchors span.start
  | _ => []

namespace Extraction

variable (it : Extraction)

theorem ofStatements_eq_flatMap (scope : Scope) (statements : List Stmt) :
    it.ofStatements scope statements =
      statements.flatMap (it.ofStatement scope) := by
  induction statements with
  | nil => simp [ofStatements]
  | cons statement statements ih => simp [ofStatements, ih]

/-- Default values show neither components nor shapes. -/
theorem of_mem_defaultFindings {source owner : String} {initializer : Expr}
    {finding : Finding}
    (hfinding : finding ∈ defaultFindings source owner initializer) :
    finding.component? = none ∧ finding.shape? = none := by
  simp only [defaultFindings, List.mem_append, List.mem_map,
    List.mem_singleton] at hfinding
  rcases hfinding with (⟨name, _, rfl⟩ | rfl) | ⟨problem, _, rfl⟩
  · exact ⟨rfl, rfl⟩
  · exact ⟨rfl, rfl⟩
  · exact ⟨rfl, rfl⟩

theorem of_mem_memberFindings {source owner : String} {member : ClassMember}
    {finding : Finding}
    (hfinding : finding ∈ memberFindings source owner member) :
    finding.component? = none ∧ finding.shape? = none := by
  unfold memberFindings at hfinding
  split at hfinding
  · split at hfinding
    · split at hfinding
      · exact of_mem_defaultFindings hfinding
      · rw [List.mem_singleton.mp hfinding]
        exact ⟨rfl, rfl⟩
    · exact absurd hfinding List.not_mem_nil
  · exact absurd hfinding List.not_mem_nil

/-- A class with a name is one component, by its heritage. -/
theorem ofClass_components {anchor : Nat} {value : ClassNode} {name : String}
    (hname : value.name = some name) :
    (it.ofClass anchor value).filterMap Finding.component? =
      [{ name := name
         kind := .classBased
         base := (it.options.classHeritage (Heritage.namesOfClass
          it.options.namespaceMarkers value)).base
         props := (it.options.classHeritage (Heritage.namesOfClass
          it.options.namespaceMarkers value)).props
         comment := it.file.comment [anchor, value.span.start] }] := by
  have hmembers : (value.members.flatMap
      (memberFindings it.file.text name)).filterMap Finding.component? = [] := by
    rw [List.filterMap_eq_nil_iff]
    intro finding hfinding
    obtain ⟨member, _, hmem⟩ := List.mem_flatMap.mp hfinding
    exact (of_mem_memberFindings hmem).1
  simp only [ofClass, hname, List.filterMap_append, hmembers]
  rfl

theorem ofClass_shapes (anchor : Nat) (value : ClassNode) :
    (it.ofClass anchor value).filterMap Finding.shape? = [] := by
  unfold ofClass
  split
  · rfl
  · rw [List.filterMap_eq_nil_iff]
    intro finding hfinding
    simp only [List.mem_append, List.mem_singleton] at hfinding
    rcases hfinding with (rfl | hmembers) | rfl
    · rfl
    · obtain ⟨member, _, hmem⟩ := List.mem_flatMap.mp hmembers
      exact (of_mem_memberFindings hmem).2
    · rfl

section Parts

variable {α : Type} {part : Finding → Option α}

/-- A function shows components at most. -/
theorem ofFunction_apart (hpart : Finding.ApartFromComponents part)
    (anchor : Nat) (span : Span) (value : Function) :
    (it.ofFunction anchor span value).filterMap part = [] := by
  unfold ofFunction
  split
  · simp [functionComponent, hpart.1]
  · rfl

/-- A binding shows components at most, and notes about them. -/
theorem ofDeclarator_apart (hpart : Finding.ApartFromComponents part)
    (anchor start : Nat) (binding : Declarator) :
    (it.ofDeclarator anchor start binding).filterMap part = [] := by
  unfold ofDeclarator
  split
  · split
    · simp [functionComponent, hpart.1]
    · split
      · split
        · simp [functionComponent, hpart.1, hpart.2]
        · rfl
      · rfl
  · rfl

/-- The findings of a shape are that shape, and notes about it. -/
theorem shapeFindings_apart (hpart : Finding.ApartFromShapes part)
    (name : String) (anchors : List Nat) :
    (it.shapeFindings name anchors).filterMap part = [] := by
  rw [List.filterMap_eq_nil_iff]
  intro finding hfinding
  simp only [shapeFindings, List.mem_append, List.mem_map,
    List.mem_singleton] at hfinding
  rcases hfinding with ⟨shape, _, rfl⟩ | rfl
  · exact hpart.2 _
  · exact hpart.1 _

end Parts

theorem ofExpression_shapes (value : Expr) :
    (it.ofExpression value).filterMap Finding.shape? = [] := by
  unfold ofExpression
  split
  · rw [List.filterMap_eq_nil_iff]
    intro finding hfinding
    exact (of_mem_defaultFindings hfinding).2
  · rfl

theorem shapeFindings_shapes (name : String) (anchors : List Nat) :
    (it.shapeFindings name anchors).filterMap Finding.shape? =
      [⟨name, (resolveShape it.file it.table name).members,
        it.file.comment anchors⟩] := by
  have hnotes : ∀ names : List String,
      (names.map fun shape => Finding.note (.inheritanceCycle shape)).filterMap
        Finding.shape? = [] := by
    intro names
    simp [List.filterMap_eq_nil_iff, Finding.shape?]
  simp [shapeFindings, hnotes, Finding.shape?]

mutual

/-- Namespaces show no shapes. -/
theorem ofDecl_inNamespace_shapes (anchor : Nat) (value : Decl) :
    (it.ofDecl .inNamespace anchor value).filterMap Finding.shape? = [] := by
  cases value with
  | classDecl value => simpa [ofDecl] using it.ofClass_shapes anchor value
  | functionDecl span value =>
      simpa [ofDecl] using
        it.ofFunction_apart Finding.shape?_apartFromComponents anchor span value
  | variableDecl span bindings =>
      simp [ofDecl, List.filterMap_flatMap,
        it.ofDeclarator_apart Finding.shape?_apartFromComponents]
  | interfaceDecl span name generics bases members => simp [ofDecl]
  | aliasDecl span name generics type => cases type <;> simp [ofDecl]
  | namespaceDecl span statements =>
      simpa [ofDecl] using ofStatements_inNamespace_shapes statements
  | other span parts => simp [ofDecl]

theorem ofStatement_inNamespace_shapes (statement : Stmt) :
    (it.ofStatement .inNamespace statement).filterMap Finding.shape? = [] := by
  cases statement with
  | declaration value => simp [ofStatement]
  | exported span value =>
      cases value with
      | none => simp [ofStatement]
      | some value =>
          simpa [ofStatement] using ofDecl_inNamespace_shapes span.start value
  | exportedDefault span value =>
      simpa [ofStatement] using ofDecl_inNamespace_shapes span.start value
  | expression span value => simp [ofStatement]
  | other span parts => simp [ofStatement]

theorem ofStatements_inNamespace_shapes (statements : List Stmt) :
    (it.ofStatements .inNamespace statements).filterMap Finding.shape? = [] := by
  cases statements with
  | nil => simp [ofStatements]
  | cons statement statements =>
      simp only [ofStatements, List.filterMap_append]
      rw [ofStatement_inNamespace_shapes statement,
        ofStatements_inNamespace_shapes statements, List.append_nil]

end

/-- A declaration at the top shows the shape that it introduces. -/
theorem ofDecl_file_shapes (anchor : Nat) (value : Decl) :
    (it.ofDecl .file anchor value).filterMap Finding.shape? =
      value.shape?.toList.map fun declared =>
        ⟨declared.1, (resolveShape it.file it.table declared.1).members,
          it.file.comment (value.commentAnchors anchor)⟩ := by
  cases value with
  | classDecl value =>
      simpa [ofDecl, Decl.shape?] using it.ofClass_shapes anchor value
  | functionDecl span value =>
      simpa [ofDecl, Decl.shape?] using it.ofFunction_apart
        Finding.shape?_apartFromComponents anchor span value
  | variableDecl span bindings =>
      simp [ofDecl, List.filterMap_flatMap, Decl.shape?,
        it.ofDeclarator_apart Finding.shape?_apartFromComponents]
  | interfaceDecl span name generics bases members =>
      simp [ofDecl, shapeFindings_shapes, Decl.shape?, Decl.commentAnchors]
  | aliasDecl span name generics type =>
      cases type with
      | literal inside members =>
          simp [ofDecl, shapeFindings_shapes, Decl.shape?, Decl.commentAnchors]
      | reference outer nameSpan name arguments => simp [ofDecl, Decl.shape?]
      | union outer alternatives => simp [ofDecl, Decl.shape?]
      | parenthesized outer inner => simp [ofDecl, Decl.shape?]
      | compound outer parts => simp [ofDecl, Decl.shape?]
  | namespaceDecl span statements =>
      simpa [ofDecl, Decl.shape?] using
        it.ofStatements_inNamespace_shapes statements
  | other span parts => simp [ofDecl, Decl.shape?]

/-- The shape that a top-level statement shows, as the table resolves it. -/
def shown? (statement : Stmt) : Option PropShape :=
  statement.shape?.map fun declared =>
    ⟨declared.1, (resolveShape it.file it.table declared.1).members,
      it.file.comment statement.commentAnchors⟩

theorem ofStatement_file_shapes (statement : Stmt) :
    (it.ofStatement .file statement).filterMap Finding.shape? =
      (it.shown? statement).toList := by
  cases statement with
  | declaration value =>
      simp [ofStatement, shown?, Stmt.shape?, Stmt.commentAnchors,
        it.ofDecl_file_shapes, Option.toList_map]
  | exported span value =>
      cases value with
      | none => simp [ofStatement, shown?, Stmt.shape?]
      | some value =>
          simp [ofStatement, shown?, Stmt.shape?, Stmt.commentAnchors,
            it.ofDecl_file_shapes, Option.toList_map]
  | exportedDefault span value =>
      simp [ofStatement, shown?, Stmt.shape?, Stmt.commentAnchors,
        it.ofDecl_file_shapes, Option.toList_map]
  | expression span value =>
      simpa [ofStatement, shown?, Stmt.shape?] using it.ofExpression_shapes value
  | other span parts => simp [ofStatement, shown?, Stmt.shape?]

/-- Statements show the shapes that they declare, one after the other. -/
theorem ofStatements_file_shapes (statements : List Stmt) :
    (it.ofStatements .file statements).filterMap Finding.shape? =
      statements.filterMap it.shown? := by
  induction statements with
  | nil => simp [ofStatements]
  | cons statement statements ih =>
      rw [ofStatements, List.filterMap_append, ih, ofStatement_file_shapes]
      cases hshown : it.shown? statement <;> simp [hshown]

/-- Statements show the shapes of their table, in order. -/
theorem ofStatements_shape_names (statements : List Stmt) :
    ((it.ofStatements .file statements).filterMap Finding.shape?).map
        PropShape.name =
      (statements.filterMap Stmt.shape?).map Prod.fst := by
  rw [ofStatements_file_shapes, List.map_filterMap, List.map_filterMap]
  congr 1
  funext statement
  simp [shown?, Function.comp_def]

/-- A shape that is shown has the members that its name resolves to. -/
theorem ofStatements_shape_members {statements : List Stmt} {shape : PropShape}
    (hshape : shape ∈
      (it.ofStatements .file statements).filterMap Finding.shape?) :
    shape.members = (resolveShape it.file it.table shape.name).members := by
  rw [ofStatements_file_shapes, List.mem_filterMap] at hshape
  obtain ⟨statement, _, hshown⟩ := hshape
  obtain ⟨declared, _, rfl⟩ := Option.map_eq_some_iff.mp hshown
  rfl

end Extraction

/-! ### The last declaration of a name -/

/-- What the last top-level statement says that declares a shape of a name. -/
def lastShape? (statements : List Stmt) (name : String) : Option ShapeSource :=
  ((statements.filterMap Stmt.shape?).reverse.find?
    (fun declared => declared.1 = name)).map Prod.snd

/-- The table answers with the last declaration. -/
theorem get?_ofStatements (statements : List Stmt) :
    (ShapeTable.ofStatements statements).get? = lastShape? statements := by
  funext name
  exact OrderedMap.get?_ofList (statements.filterMap Stmt.shape?) name

theorem lastShape?_eq_none_iff {statements : List Stmt} {name : String} :
    lastShape? statements name = none ↔
      name ∉ (statements.filterMap Stmt.shape?).map Prod.fst := by
  simp only [lastShape?, Option.map_eq_none_iff, List.find?_eq_none,
    List.mem_reverse, decide_eq_true_eq, List.mem_map, not_exists, not_and]

/-- Later statements that do not declare a name leave its declaration. -/
theorem lastShape?_append_of_not_mem {statements later : List Stmt}
    {name : String}
    (hlater : name ∉ (later.filterMap Stmt.shape?).map Prod.fst) :
    lastShape? (statements ++ later) name = lastShape? statements name := by
  have hnone : (later.filterMap Stmt.shape?).reverse.find?
      (fun declared => declared.1 = name) = none :=
    Option.map_eq_none_iff.mp (lastShape?_eq_none_iff.mpr hlater)
  simp [lastShape?, List.find?_append, hnone]

section RawDocuments

variable {file : File} {name : String}

theorem rawDocument_shape?_eq_none (options : Options)
    (hname : lastShape? file.statements name = none) :
    (file.rawDocument options).shape? name = none := by
  rw [lastShape?_eq_none_iff] at hname
  rw [File.rawDocument, RawDocument.shape?_ofFindings, List.find?_eq_none]
  intro shape hshape
  rw [List.mem_reverse] at hshape
  have hmem := List.mem_map_of_mem (f := PropShape.name) hshape
  rw [File.findings, Extraction.ofStatements_shape_names] at hmem
  intro heq
  exact hname (by simpa [of_decide_eq_true heq] using hmem)

/-- The shape of a declared name has the members that the name resolves to. -/
theorem rawDocument_shape?_eq_some (options : Options) {source : ShapeSource}
    (hname : lastShape? file.statements name = some source) :
    ∃ comment, (file.rawDocument options).shape? name =
      some ⟨name, (resolveShape file (ShapeTable.ofStatements file.statements)
        name).members, comment⟩ := by
  have hmem : name ∈ (file.statements.filterMap Stmt.shape?).map Prod.fst := by
    by_contra hnot
    simp [lastShape?_eq_none_iff.mpr hnot] at hname
  rw [File.rawDocument, RawDocument.shape?_ofFindings]
  cases hfound : ((file.findings options).filterMap
      Finding.shape?).reverse.find? (fun shape => shape.name = name) with
  | none =>
      rw [List.find?_eq_none] at hfound
      rw [← Extraction.ofStatements_shape_names
        ⟨file, options, ShapeTable.ofStatements file.statements⟩] at hmem
      obtain ⟨shape, hshape, heq⟩ := List.mem_map.mp hmem
      exact absurd heq
        (by simpa using hfound shape (List.mem_reverse.mpr hshape))
  | some shape =>
      have hsame : shape.name = name := by
        simpa using List.find?_some hfound
      have hshape := List.mem_reverse.mp (List.mem_of_find?_eq_some hfound)
      have hmembers := Extraction.ofStatements_shape_members
        ⟨file, options, ShapeTable.ofStatements file.statements⟩ hshape
      refine ⟨shape.comment, ?_⟩
      rw [← hsame, ← hmembers]

end RawDocuments

end ComponentDocs
