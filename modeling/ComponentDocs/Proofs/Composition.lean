import ComponentDocs.Proofs.Outcomes
import ComponentDocs.Proofs.Visits

/-!
What statements add to a document, one list after the other.

Components, default values and diagnostics are found in the visits that the
statements lead to, so those of two lists of statements come one after the
other. Interfaces and aliases lead to no visit, and nothing else declares a
shape: the two kinds of statements can be edited without regard to each other.
-/

namespace ComponentDocs

open Source

/-! ### The two kinds of statements -/

/-- Whether a declaration is an interface or an alias of a type. -/
def Source.Decl.declaresType : Decl → Bool
  | .interfaceDecl .. => true
  | .aliasDecl .. => true
  | _ => false

/-- Whether a statement is an interface or an alias of a type, exported or not. -/
def Source.Stmt.declaresType : Stmt → Bool
  | .declaration value => value.declaresType
  | .exported _ (some value) => value.declaresType
  | .exportedDefault _ value => value.declaresType
  | _ => false

/-- The statements that declare a type, in order. -/
def typeStatements (statements : List Stmt) : List Stmt :=
  statements.filter Stmt.declaresType

/-- The other statements, in order. -/
def otherStatements (statements : List Stmt) : List Stmt :=
  statements.filter fun statement => !statement.declaresType

theorem Source.Decl.visits_of_declaresType {value : Decl} (anchor : Nat)
    (htype : value.declaresType = true) : value.visits anchor = [] := by
  cases value with
  | interfaceDecl span name generics bases members => simp [Decl.visits]
  | aliasDecl span name generics type => simp [Decl.visits]
  | _ => simp [Decl.declaresType] at htype

theorem Source.Stmt.visits_of_declaresType {statement : Stmt} (scope : Scope)
    (htype : statement.declaresType = true) : statement.visits scope = [] := by
  cases statement with
  | declaration value =>
      simp only [Stmt.visits, Decl.visits_of_declaresType _ htype, ite_self]
  | exported span value =>
      cases value with
      | none => simp [Stmt.visits]
      | some value =>
          simp only [Stmt.visits]
          exact Decl.visits_of_declaresType span.start htype
  | exportedDefault span value =>
      simp only [Stmt.visits]
      exact Decl.visits_of_declaresType span.start htype
  | expression span value => simp [Stmt.declaresType] at htype
  | other span parts => simp [Stmt.declaresType] at htype

/-- Statements that declare a type lead to no visit. -/
theorem visitsOf_otherStatements (scope : Scope) (statements : List Stmt) :
    visitsOf scope (otherStatements statements) = visitsOf scope statements := by
  induction statements with
  | nil => rfl
  | cons statement statements ih =>
      rw [otherStatements, visitsOf, ← ih]
      cases htype : statement.declaresType with
      | true =>
          rw [Stmt.visits_of_declaresType scope htype]
          simp [htype, otherStatements]
      | false => simp [htype, otherStatements, visitsOf]

theorem Source.Decl.shape?_of_not_declaresType {value : Decl}
    (htype : value.declaresType = false) : value.shape? = none := by
  cases value <;> first | rfl | simp [Decl.declaresType] at htype

theorem Source.Stmt.shape?_of_not_declaresType {statement : Stmt}
    (htype : statement.declaresType = false) : statement.shape? = none := by
  cases statement with
  | declaration value => exact Decl.shape?_of_not_declaresType htype
  | exported span value =>
      cases value with
      | none => rfl
      | some value => exact Decl.shape?_of_not_declaresType htype
  | exportedDefault span value => exact Decl.shape?_of_not_declaresType htype
  | expression span value => rfl
  | other span parts => rfl

/-- What is made of the shapes of statements is made of those that declare types. -/
theorem filterMap_typeStatements {α : Type} {found : Stmt → Option α}
    (hfound : ∀ statement : Stmt, statement.shape? = none → found statement = none)
    (statements : List Stmt) :
    (typeStatements statements).filterMap found = statements.filterMap found := by
  rw [typeStatements, List.filterMap_filter]
  refine List.filterMap_congr fun statement _ => ?_
  cases htype : statement.declaresType with
  | true => rfl
  | false =>
      exact (hfound statement (Stmt.shape?_of_not_declaresType htype)).symm

/-! ### The parts of a document as functions of the statements -/

section Parts

variable {text : String} {docs : OrderedMap Nat Span} {options : Options}
variable {first second : List Stmt} {α : Type} {part : Finding → Option α}

/-- What is found besides shapes, with the statements of the file left out. -/
theorem findings_filterMap (hpart : Finding.ApartFromShapes part)
    (statements : List Stmt) :
    (File.findings ⟨text, statements, docs⟩ options).filterMap part =
      ((visitsOf .file statements).flatMap
        (Extraction.ofVisit ⟨⟨text, [], docs⟩, options, .empty⟩)).filterMap
        part := by
  rw [File.findings, Extraction.ofStatements_filterMap _ hpart]
  have hvisit := Extraction.ofVisit_of_file text docs options statements []
    (ShapeTable.ofStatements statements) .empty
  rw [funext hvisit]

theorem findings_filterMap_append (hpart : Finding.ApartFromShapes part)
    (first second : List Stmt) :
    (File.findings ⟨text, first ++ second, docs⟩ options).filterMap part =
      (File.findings ⟨text, first, docs⟩ options).filterMap part ++
        (File.findings ⟨text, second, docs⟩ options).filterMap part := by
  rw [findings_filterMap hpart, findings_filterMap hpart,
    findings_filterMap hpart, visitsOf_append, List.flatMap_append,
    List.filterMap_append]

/-- Shapes apart, statements that declare a type make no difference. -/
theorem findings_filterMap_of_otherStatements
    (hpart : Finding.ApartFromShapes part)
    (hsame : otherStatements first = otherStatements second) :
    (File.findings ⟨text, first, docs⟩ options).filterMap part =
      (File.findings ⟨text, second, docs⟩ options).filterMap part := by
  have hvisits : visitsOf .file first = visitsOf .file second := by
    rw [← visitsOf_otherStatements, hsame, visitsOf_otherStatements]
  rw [findings_filterMap hpart, findings_filterMap hpart, hvisits]

/-- The shapes of a document are determined by the findings that are shapes. -/
theorem RawDocument.shapes_ofFindings (findings : List Finding) :
    (ofFindings findings).shapes =
      (ofFindings ((findings.filterMap Finding.shape?).map .shape)).shapes := by
  induction findings using List.reverseRecOn with
  | nil => rfl
  | append_singleton findings finding ih =>
      rw [ofFindings_concat, List.filterMap_append, List.map_append]
      cases hshape : finding.shape? with
      | none =>
          rw [shapes_add_of_shape?_eq_none hshape, ih]
          simp [hshape]
      | some value =>
          have hlast : [finding].filterMap Finding.shape? = [value] := by
            simp [hshape]
          rw [add_of_shape?_eq_some hshape, hlast, List.map_singleton,
            ofFindings_concat, add, insertShape, insertShape, ih]

/-- The shapes of a document, with the statements of the file left out. -/
theorem shapes_eq_shown (statements : List Stmt) :
    (File.rawDocument ⟨text, statements, docs⟩ options).shapes =
      (RawDocument.ofFindings ((statements.filterMap (Extraction.shown?
        ⟨⟨text, [], docs⟩, options, ShapeTable.ofStatements statements⟩)).map
        .shape)).shapes := by
  rw [File.rawDocument, RawDocument.shapes_ofFindings, File.findings,
    Extraction.ofStatements_file_shapes]
  rfl

/-- Only statements that declare a type have a part in the shapes. -/
theorem shapes_of_typeStatements
    (hsame : typeStatements first = typeStatements second) :
    (File.rawDocument ⟨text, first, docs⟩ options).shapes =
      (File.rawDocument ⟨text, second, docs⟩ options).shapes := by
  have hfound : ∀ {β : Type} (found : Stmt → Option β),
      (∀ statement : Stmt, statement.shape? = none → found statement = none) →
      first.filterMap found = second.filterMap found := by
    intro β found hnone
    rw [← filterMap_typeStatements hnone, hsame, filterMap_typeStatements hnone]
  have htable : ShapeTable.ofStatements first = ShapeTable.ofStatements second :=
    congrArg OrderedMap.ofList (hfound Stmt.shape? fun _ hnone => hnone)
  rw [shapes_eq_shown, shapes_eq_shown, htable, hfound]
  intro statement hnone
  rw [Extraction.shown?, hnone, Option.map_none]

/-- A document is what its four parts are. -/
theorem RawDocument.eq_of_parts {document other : RawDocument}
    (hcomponents : document.components = other.components)
    (hshapes : document.shapes = other.shapes)
    (hdefaults : document.defaults = other.defaults)
    (hdiagnostics : document.diagnostics = other.diagnostics) :
    document = other := by
  obtain ⟨components, shapes, defaults, diagnostics⟩ := document
  cases hcomponents
  cases hshapes
  cases hdefaults
  cases hdiagnostics
  rfl

/-- Files with the same shapes are told apart by the findings of their visits. -/
theorem rawDocument_eq_of_findings {file other : File}
    (hfindings : ∀ {β : Type} {part : Finding → Option β},
      Finding.ApartFromShapes part → (file.findings options).filterMap part =
        (other.findings options).filterMap part)
    (hshapes : (file.rawDocument options).shapes =
      (other.rawDocument options).shapes) :
    file.rawDocument options = other.rawDocument options := by
  refine RawDocument.eq_of_parts ?_ hshapes ?_ ?_
  · rw [File.rawDocument, RawDocument.components_ofFindings,
      hfindings Finding.component?_apartFromShapes,
      ← RawDocument.components_ofFindings, File.rawDocument]
  · rw [File.rawDocument, RawDocument.defaults_ofFindings,
      hfindings Finding.defaults?_apartFromShapes,
      ← RawDocument.defaults_ofFindings, File.rawDocument]
  · rw [File.rawDocument, RawDocument.diagnostics_ofFindings,
      hfindings Finding.problem?_apartFromShapes,
      ← RawDocument.diagnostics_ofFindings, File.rawDocument]

/-- Statements with the same visits and the same types give the same document. -/
theorem rawDocument_eq_of_visits
    (hvisits : visitsOf .file first = visitsOf .file second)
    (htypes : typeStatements first = typeStatements second) :
    File.rawDocument ⟨text, first, docs⟩ options =
      File.rawDocument ⟨text, second, docs⟩ options := by
  refine rawDocument_eq_of_findings ?_ (shapes_of_typeStatements htypes)
  intro β part hpart
  rw [findings_filterMap hpart, findings_filterMap hpart, hvisits]

end Parts

/--
Extraction is compositional. Over one text and its comments, the components and
the diagnostics of two lists of statements are those of the first and then those
of the second, and the default values of the second are merged into those of the
first: a key keeps its first place and has its last value. Statements that
declare an interface or an alias can be inserted, deleted and moved without a
change to these three parts, and all other statements without a change to the
shapes.
-/
theorem extraction_is_compositional (text : String)
    (docs : OrderedMap Nat Span) (options : Options) (first second : List Stmt) :
    let document := fun statements =>
      File.rawDocument ⟨text, statements, docs⟩ options
    ((document (first ++ second)).components =
        (document first).components ++ (document second).components ∧
      (document (first ++ second)).diagnostics =
        (document first).diagnostics ++ (document second).diagnostics ∧
      (document (first ++ second)).defaults =
        ((document first).mergeDefaults (document second).defaults).defaults ∧
      (document (first ++ second)).defaults.keys =
        (document first).defaults.keys ++ (document second).defaults.keys.filter
          (fun name => name ∉ (document first).defaults.keys) ∧
      ∀ name, (document (first ++ second)).defaults.get? name =
        ((document second).defaults.get? name).or
          ((document first).defaults.get? name)) ∧
    (otherStatements first = otherStatements second →
      (document first).components = (document second).components ∧
      (document first).defaults = (document second).defaults ∧
      (document first).diagnostics = (document second).diagnostics) ∧
    (typeStatements first = typeStatements second →
      (document first).shapes = (document second).shapes) := by
  intro document
  have hentries : ∀ statements, (document statements).defaults =
      OrderedMap.ofList (((File.findings ⟨text, statements, docs⟩
        options).filterMap Finding.defaults?).flatMap OrderedMap.entries) :=
    fun statements => RawDocument.defaults_ofFindings _
  have happend : (document (first ++ second)).defaults =
      (document first).defaults.insertAll
        (((File.findings ⟨text, second, docs⟩ options).filterMap
          Finding.defaults?).flatMap OrderedMap.entries) := by
    rw [hentries, findings_filterMap_append Finding.defaults?_apartFromShapes,
      List.flatMap_append, OrderedMap.ofList, OrderedMap.insertAll_append,
      ← OrderedMap.ofList, ← hentries]
  refine ⟨⟨?_, ?_, ?_, ?_, ?_⟩, ?_, shapes_of_typeStatements⟩
  · simp only [document, File.rawDocument, RawDocument.components_ofFindings]
    exact findings_filterMap_append Finding.component?_apartFromShapes first second
  · simp only [document, File.rawDocument, RawDocument.diagnostics_ofFindings]
    exact findings_filterMap_append Finding.problem?_apartFromShapes first second
  · have hkeys : (document first).defaults.keys.Nodup := by
      rw [hentries]
      exact OrderedMap.keys_ofList_nodup _
    rw [happend, RawDocument.mergeDefaults, hentries second,
      OrderedMap.insertAll_entries_ofList hkeys]
  · rw [happend, OrderedMap.keys_insertAll, ← hentries second]
  · intro name
    rw [happend, OrderedMap.get?_insertAll, ← hentries second]
  · intro hsame
    refine ⟨?_, ?_, ?_⟩
    · simp only [document, File.rawDocument, RawDocument.components_ofFindings]
      exact findings_filterMap_of_otherStatements
        Finding.component?_apartFromShapes hsame
    · rw [hentries, hentries, findings_filterMap_of_otherStatements
        Finding.defaults?_apartFromShapes hsame]
    · simp only [document, File.rawDocument, RawDocument.diagnostics_ofFindings]
      exact findings_filterMap_of_otherStatements
        Finding.problem?_apartFromShapes hsame

end ComponentDocs
