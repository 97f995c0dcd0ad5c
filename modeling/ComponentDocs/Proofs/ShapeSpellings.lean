import ComponentDocs.Proofs.Composition
import ComponentDocs.Proofs.ShapeDeclarations

/-!
Interfaces without bases and aliases of object types.

Both spellings of a shape enter the table alike, so all names resolve to the
same members, and neither leads to a visit. What is left of the difference is
where a comment is looked for: an exported interface may have its comment behind
`export`, an exported alias may not. A document is compared by looking up each
name, since the names of its shapes and their order do not depend on comments.
-/

namespace ComponentDocs

open Source

/-! ### Documents whose shapes correspond -/

namespace RawDocument

/-- Shapes are found again by their names, in order. -/
theorem shapes_eq_filterMap {document : RawDocument}
    (hdistinct : document.DistinctShapes) :
    document.shapes =
      (document.shapes.map PropShape.name).filterMap document.shape? := by
  rw [List.filterMap_map]
  have hsame : document.shapes.filterMap (document.shape? ∘ PropShape.name) =
      document.shapes.filterMap some :=
    List.filterMap_congr fun shape hshape =>
      (mem_shapes_iff hdistinct shape).mp hshape
  rw [hsame, List.filterMap_some]

/-- Documents with the same names that are looked up alike have like shapes. -/
theorem shapes_eq_map {document other : RawDocument}
    (hdistinct : document.DistinctShapes) (hother : other.DistinctShapes)
    (hnames : other.shapes.map PropShape.name =
      document.shapes.map PropShape.name) {change : PropShape → PropShape}
    (hfound : ∀ name, other.shape? name = (document.shape? name).map change) :
    other.shapes = document.shapes.map change := by
  rw [shapes_eq_filterMap hother, hnames, funext hfound, ← List.map_filterMap,
    ← shapes_eq_filterMap hdistinct]

end RawDocument

/-! ### The two spellings -/

/--
An interface without bases, and an alias of the same name for an object type
with its signatures. Both are exported or none is, and they start at the same
offsets.
-/
inductive Respelled (name : String) : Stmt → Stmt → Prop where
  | plain (span other inside : Span) (generics others : List Part)
      (signatures : List Signature) (hstart : other.start = span.start) :
      Respelled name
        (.declaration (.interfaceDecl span name generics [] signatures))
        (.declaration (.aliasDecl other name others (.literal inside signatures)))
  | exported (outer outside span other inside : Span)
      (generics others : List Part) (signatures : List Signature)
      (houter : outside.start = outer.start) (hstart : other.start = span.start) :
      Respelled name
        (.exported outer (some (.interfaceDecl span name generics [] signatures)))
        (.exported outside
          (some (.aliasDecl other name others (.literal inside signatures))))

/-- The comment of an exported declaration stands behind its `export` only. -/
def CommentInside (text : String) (docs : OrderedMap Nat Span) : Stmt → Prop
  | .exported outer (some value) =>
      docs.get? outer.start = none ∧ commentAt text docs [value.span.start] ≠ ""
  | _ => False

/-- A shape with another comment, if it has a name. -/
def PropShape.recommented (name comment : String) (shape : PropShape) :
    PropShape :=
  if shape.name = name then { shape with comment := comment } else shape

theorem commentAt_cons_none {text : String} {docs : OrderedMap Nat Span}
    {anchor : Nat} (hnone : docs.get? anchor = none) (anchors : List Nat) :
    commentAt text docs (anchor :: anchors) = commentAt text docs anchors := by
  simp only [commentAt, List.findSome?_cons, hnone]

theorem commentAt_cons_some {text : String} {docs : OrderedMap Nat Span}
    {anchor : Nat} (hsome : docs.get? anchor ≠ none) (anchors : List Nat) :
    commentAt text docs (anchor :: anchors) = commentAt text docs [anchor] := by
  obtain ⟨span, hspan⟩ := Option.ne_none_iff_exists'.mp hsome
  simp only [commentAt, List.findSome?_cons, hspan]

namespace Respelled

variable {name : String} {statement respelled : Stmt}
variable {text : String} {docs : OrderedMap Nat Span}

theorem shape?_eq (hrespelled : Respelled name statement respelled) :
    respelled.shape? = statement.shape? := by
  cases hrespelled <;> rfl

theorem exists_shape? (hrespelled : Respelled name statement respelled) :
    ∃ source, statement.shape? = some (name, source) := by
  cases hrespelled <;> exact ⟨_, rfl⟩

theorem declaresType (hrespelled : Respelled name statement respelled) :
    statement.declaresType = true ∧ respelled.declaresType = true := by
  cases hrespelled <;> exact ⟨rfl, rfl⟩

/-- A comment that stands elsewhere is found for both spellings. -/
theorem comment_eq (hrespelled : Respelled name statement respelled)
    (hinside : ¬ CommentInside text docs statement) :
    commentAt text docs respelled.commentAnchors =
      commentAt text docs statement.commentAnchors := by
  cases hrespelled with
  | plain span other inside generics others signatures hstart =>
      change commentAt text docs [other.start] =
        commentAt text docs [span.start, span.start]
      rw [hstart]
      exact (comment_twice ⟨text, [], docs⟩ span.start).symm
  | exported outer outside span other inside generics others signatures houter
      hstart =>
      change commentAt text docs [outside.start] =
        commentAt text docs [outer.start, span.start]
      rw [houter]
      by_cases hnone : docs.get? outer.start = none
      · have hempty : commentAt text docs [span.start] = "" := by
          by_contra hcomment
          exact hinside ⟨hnone, hcomment⟩
        rw [commentAt_cons_none hnone, commentAt_cons_none hnone, hempty]
        rfl
      · rw [commentAt_cons_some hnone [span.start]]

theorem comment_lost (hrespelled : Respelled name statement respelled)
    (hinside : CommentInside text docs statement) :
    commentAt text docs respelled.commentAnchors = "" ∧
      commentAt text docs statement.commentAnchors ≠ "" := by
  cases hrespelled with
  | plain span other inside generics others signatures hstart =>
      exact hinside.elim
  | exported outer outside span other inside generics others signatures houter
      hstart =>
      obtain ⟨hnone, hcomment⟩ := hinside
      change commentAt text docs [outside.start] = "" ∧
        commentAt text docs [outer.start, span.start] ≠ ""
      rw [houter, commentAt_cons_none hnone, commentAt_cons_none hnone]
      exact ⟨rfl, hcomment⟩

end Respelled

/-! ### Files that differ in one spelling -/

section Files

variable {text : String} {docs : OrderedMap Nat Span} {options : Options}

/-- The shape of a name is the last one that statements show under it. -/
theorem shape?_eq_shown (statements : List Stmt) (name : String) :
    (File.rawDocument ⟨text, statements, docs⟩ options).shape? name =
      (statements.filterMap (Extraction.shown? ⟨⟨text, [], docs⟩, options,
        ShapeTable.ofStatements statements⟩)).reverse.find?
        (fun shape => shape.name = name) := by
  rw [File.rawDocument, RawDocument.shape?_ofFindings, File.findings,
    Extraction.ofStatements_file_shapes]
  rfl

variable {front back : List Stmt} {name : String} {statement respelled : Stmt}

/-- What is found under a name in the midst of statements. -/
theorem find?_shown (it : Extraction) {shape : PropShape}
    (hshown : it.shown? statement = some shape) (key : String) :
    ((front ++ statement :: back).filterMap it.shown?).reverse.find?
        (fun shape => shape.name = key) =
      ((back.filterMap it.shown?).reverse.find? (fun shape => shape.name = key)).or
        (if shape.name = key then some shape
          else (front.filterMap it.shown?).reverse.find?
            (fun shape => shape.name = key)) := by
  simp only [List.filterMap_append, List.filterMap_cons, hshown,
    List.reverse_append, List.reverse_cons, List.append_assoc,
    List.find?_append, List.singleton_append, List.find?_cons]
  by_cases hkey : shape.name = key <;> simp [hkey]

theorem find?_shown_eq_none_iff (it : Extraction) (statements : List Stmt)
    (key : String) :
    (statements.filterMap it.shown?).reverse.find?
        (fun shape => shape.name = key) = none ↔
      key ∉ statements.filterMap Stmt.shapeName? := by
  have hnames : (statements.filterMap it.shown?).map PropShape.name =
      statements.filterMap Stmt.shapeName? := by
    rw [filterMap_shapeName?, ← it.ofStatements_shape_names,
      it.ofStatements_file_shapes]
  rw [List.find?_eq_none, ← hnames]
  simp

namespace Respelled

theorem exists_shown? (hrespelled : Respelled name statement respelled)
    (it : Extraction) :
    ∃ members,
      it.shown? statement =
        some ⟨name, members, it.file.comment statement.commentAnchors⟩ ∧
      it.shown? respelled =
        some ⟨name, members, it.file.comment respelled.commentAnchors⟩ := by
  obtain ⟨source, hsource⟩ := hrespelled.exists_shape?
  refine ⟨(resolveShape it.file it.table name).members, ?_, ?_⟩
  · simp [Extraction.shown?, hsource]
  · simp [Extraction.shown?, hrespelled.shape?_eq, hsource]

variable (hrespelled : Respelled name statement respelled)
include hrespelled

theorem table_eq : ShapeTable.ofStatements (front ++ respelled :: back) =
    ShapeTable.ofStatements (front ++ statement :: back) := by
  simp only [ShapeTable.ofStatements, List.filterMap_append, List.filterMap_cons,
    hrespelled.shape?_eq]

theorem shape_names_eq :
    (File.rawDocument ⟨text, front ++ respelled :: back, docs⟩
      options).shapes.map PropShape.name =
    (File.rawDocument ⟨text, front ++ statement :: back, docs⟩
      options).shapes.map PropShape.name := by
  simp only [rawDocument_shape_names, List.filterMap_append, List.filterMap_cons,
    Stmt.shapeName?, hrespelled.shape?_eq]

/-- The other three parts do not depend on the spelling. -/
theorem rawDocument_eq_of_shapes :
    File.rawDocument ⟨text, front ++ respelled :: back, docs⟩ options =
      { File.rawDocument ⟨text, front ++ statement :: back, docs⟩ options with
        shapes := (File.rawDocument ⟨text, front ++ respelled :: back, docs⟩
          options).shapes } := by
  have hothers : otherStatements (front ++ respelled :: back) =
      otherStatements (front ++ statement :: back) := by
    obtain ⟨hfirst, hsecond⟩ := hrespelled.declaresType
    simp [otherStatements, List.filter_append, hfirst, hsecond]
  refine RawDocument.eq_of_parts ?_ rfl ?_ ?_
  · simp only [File.rawDocument, RawDocument.components_ofFindings]
    exact findings_filterMap_of_otherStatements
      Finding.component?_apartFromShapes hothers
  · simp only [File.rawDocument, RawDocument.defaults_ofFindings]
    rw [findings_filterMap_of_otherStatements Finding.defaults?_apartFromShapes
      hothers]
  · simp only [File.rawDocument, RawDocument.diagnostics_ofFindings]
    exact findings_filterMap_of_otherStatements
      Finding.problem?_apartFromShapes hothers

/-- What is found under a name with either spelling: they differ in a comment. -/
theorem shape?_pair (key : String) : ∃ later members earlier,
    (later = none ↔ key ∉ back.filterMap Stmt.shapeName?) ∧
    (File.rawDocument ⟨text, front ++ statement :: back, docs⟩
      options).shape? key =
      later.or (if name = key then
        some ⟨name, members, commentAt text docs statement.commentAnchors⟩
        else earlier) ∧
    (File.rawDocument ⟨text, front ++ respelled :: back, docs⟩
      options).shape? key =
      later.or (if name = key then
        some ⟨name, members, commentAt text docs respelled.commentAnchors⟩
        else earlier) := by
  let it : Extraction := ⟨⟨text, [], docs⟩, options,
    ShapeTable.ofStatements (front ++ statement :: back)⟩
  let found := fun statements : List Stmt =>
    (statements.filterMap it.shown?).reverse.find? (fun shape => shape.name = key)
  obtain ⟨members, hbefore, hafter⟩ := hrespelled.exists_shown? it
  refine ⟨found back, members, found front, find?_shown_eq_none_iff it back key,
    ?_, ?_⟩
  · rw [shape?_eq_shown, find?_shown it hbefore]
    rfl
  · rw [shape?_eq_shown, hrespelled.table_eq, find?_shown it hafter]
    rfl

/-- A shape that is declared again later shows nothing of the spelling. -/
theorem shape?_of_redeclared (hback : name ∈ back.filterMap Stmt.shapeName?)
    (key : String) :
    (File.rawDocument ⟨text, front ++ respelled :: back, docs⟩
      options).shape? key =
    (File.rawDocument ⟨text, front ++ statement :: back, docs⟩
      options).shape? key := by
  obtain ⟨later, members, earlier, hlater, hbefore, hafter⟩ :=
    hrespelled.shape?_pair key
  rw [hbefore, hafter]
  by_cases hkey : name = key
  · rw [← hkey] at hlater
    obtain ⟨shape, rfl⟩ :=
      Option.ne_none_iff_exists'.mp (mt hlater.mp (not_not.mpr hback))
    rfl
  · rw [if_neg hkey, if_neg hkey]

/-- Where it is the last of its name, its comment is the only difference. -/
theorem shape?_of_last (hback : name ∉ back.filterMap Stmt.shapeName?)
    (key : String) :
    (File.rawDocument ⟨text, front ++ respelled :: back, docs⟩
      options).shape? key =
    ((File.rawDocument ⟨text, front ++ statement :: back, docs⟩
      options).shape? key).map (PropShape.recommented name
        (commentAt text docs respelled.commentAnchors)) := by
  obtain ⟨later, members, earlier, hlater, hbefore, hafter⟩ :=
    hrespelled.shape?_pair key
  by_cases hkey : name = key
  · subst hkey
    rw [hbefore, hafter, hlater.mpr hback]
    simp [PropShape.recommented]
  · rw [if_neg hkey] at hbefore hafter
    rw [hafter, ← hbefore]
    cases hfound : (File.rawDocument ⟨text, front ++ statement :: back, docs⟩
        options).shape? key with
    | none => rfl
    | some shape =>
        have hname : shape.name = key := by simpa using List.find?_some hfound
        rw [Option.map_some, PropShape.recommented, if_neg]
        exact fun hsame => hkey (hsame.symm.trans hname)

/-- The comment is seen where it is the last of its name. -/
theorem comment_eq_of_rawDocument_eq
    (hback : name ∉ back.filterMap Stmt.shapeName?)
    (heq : File.rawDocument ⟨text, front ++ respelled :: back, docs⟩ options =
      File.rawDocument ⟨text, front ++ statement :: back, docs⟩ options) :
    commentAt text docs respelled.commentAnchors =
      commentAt text docs statement.commentAnchors := by
  obtain ⟨later, members, earlier, hlater, hbefore, hafter⟩ :=
    hrespelled.shape?_pair name
  rw [hlater.mpr hback] at hbefore hafter
  have hshapes := hafter.symm.trans ((congrArg (·.shape? name) heq).trans hbefore)
  simpa using hshapes

/-- A comment that both spellings have leaves no difference. -/
theorem shape?_of_comment (hsame : commentAt text docs respelled.commentAnchors =
      commentAt text docs statement.commentAnchors) (key : String) :
    (File.rawDocument ⟨text, front ++ respelled :: back, docs⟩
      options).shape? key =
    (File.rawDocument ⟨text, front ++ statement :: back, docs⟩
      options).shape? key := by
  obtain ⟨later, members, earlier, _, hbefore, hafter⟩ :=
    hrespelled.shape?_pair key
  rw [hbefore, hafter, hsame]

end Respelled

end Files

/--
An interface without bases and an alias of an object type with its signatures
are two spellings of one shape, but for one place of a comment. Whichever of them
stands among the statements of a file, the document is the same in all its parts,
also in what other shapes inherit, unless the statement is the last of its name
and exported, with its comment behind `export` only. The interface then has this
comment and the alias has none, and all else is the same.
-/
theorem spellings_differ_in_inner_comments (text : String)
    (docs : OrderedMap Nat Span) (options : Options) (front back : List Stmt)
    {name : String} {statement respelled : Stmt}
    (hrespelled : Respelled name statement respelled) :
    let document := fun statement =>
      File.rawDocument ⟨text, front ++ statement :: back, docs⟩ options
    let lost := CommentInside text docs statement ∧
      name ∉ back.filterMap Stmt.shapeName?
    (¬ lost → document respelled = document statement) ∧
    (lost → document respelled ≠ document statement ∧
      document respelled = { document statement with
        shapes := (document statement).shapes.map
          (PropShape.recommented name "") }) := by
  intro document lost
  have hparts : document respelled =
      { document statement with shapes := (document respelled).shapes } :=
    hrespelled.rawDocument_eq_of_shapes
  have hshapes : ∀ {change},
      (∀ key, (document respelled).shape? key =
        ((document statement).shape? key).map change) →
      (document respelled).shapes = (document statement).shapes.map change :=
    RawDocument.shapes_eq_map (RawDocument.ofFindings_distinctShapes _)
      (RawDocument.ofFindings_distinctShapes _) hrespelled.shape_names_eq
  constructor
  · intro hkept
    have hsame : ∀ key, (document respelled).shape? key =
        ((document statement).shape? key).map id := by
      intro key
      rw [Option.map_id, id]
      by_cases hback : name ∈ back.filterMap Stmt.shapeName?
      · exact hrespelled.shape?_of_redeclared hback key
      · exact hrespelled.shape?_of_comment
          (hrespelled.comment_eq fun hinside => hkept ⟨hinside, hback⟩) key
    rw [hparts, hshapes hsame, List.map_id]
  · rintro ⟨hinside, hback⟩
    obtain ⟨hempty, hcomment⟩ := hrespelled.comment_lost hinside
    constructor
    · intro heq
      exact hcomment
        ((hrespelled.comment_eq_of_rawDocument_eq hback heq).symm.trans hempty)
    · rw [hparts, hshapes fun key => hempty ▸ hrespelled.shape?_of_last hback key]

/-- An exported interface with its comment behind `export`. -/
def innerComment : String := "export /** in */ interface P\x7ba:1\x7d"

def innerComments : OrderedMap Nat Span := ⟨[(17, ⟨9, 14⟩)]⟩

def innerSignature : Signature :=
  .property ⟨29, 32⟩ (.identifier ⟨29, 30⟩ "a") false
    (some (.compound ⟨31, 32⟩ []))

def innerInterface : Stmt :=
  .exported ⟨0, 33⟩ (some (.interfaceDecl ⟨17, 33⟩ "P" [] [] [innerSignature]))

def innerAlias : Stmt :=
  .exported ⟨0, 33⟩
    (some (.aliasDecl ⟨17, 33⟩ "P" [] (.literal ⟨28, 33⟩ [innerSignature])))

/-- Where the shape is declared again, even this comment makes no difference. -/
theorem spellings_of_innerComment :
    let document := fun statements =>
      File.rawDocument ⟨innerComment, statements, innerComments⟩ .default
    Respelled "P" innerInterface innerAlias ∧
    document [innerAlias] = { document [innerInterface] with
      shapes := (document [innerInterface]).shapes.map
        (PropShape.recommented "P" "") } ∧
    document [innerAlias, innerInterface] =
      document [innerInterface, innerInterface] := by
  have hrespelled : Respelled "P" innerInterface innerAlias :=
    .exported _ _ _ _ _ _ _ _ rfl rfl
  have hinside : CommentInside innerComment innerComments innerInterface :=
    ⟨rfl, by decide⟩
  refine ⟨hrespelled, ?_, ?_⟩
  · exact ((spellings_differ_in_inner_comments innerComment innerComments .default
      [] [] hrespelled).2 ⟨hinside, by simp⟩).2
  · exact (spellings_differ_in_inner_comments innerComment innerComments .default
      [] [innerInterface] hrespelled).1 fun hlost => hlost.2 (by decide)

/-- The two spellings are not interchangeable: the alias has no comment here. -/
theorem spellings_differ_behind_export :
    ¬ ∀ (text : String) (docs : OrderedMap Nat Span) (options : Options)
      (front back : List Stmt) (name : String) (statement respelled : Stmt),
      File.parse? "P.tsx" text =
          some ⟨text, front ++ statement :: back, docs⟩ →
      Respelled name statement respelled →
      File.rawDocument ⟨text, front ++ respelled :: back, docs⟩ options =
        File.rawDocument ⟨text, front ++ statement :: back, docs⟩ options := by
  intro hsame
  have hparse : File.parse? "P.tsx" innerComment =
      some ⟨innerComment, [innerInterface], innerComments⟩ := by
    rfl
  have heq := hsame innerComment innerComments .default [] [] "P" innerInterface
    innerAlias hparse (.exported _ _ _ _ _ _ _ _ rfl rfl)
  have halias : (File.rawDocument ⟨innerComment, [innerAlias], innerComments⟩
      .default).shapes.map PropShape.comment = [""] := by
    decide +kernel
  have hinterface : (File.rawDocument ⟨innerComment, [innerInterface],
      innerComments⟩ .default).shapes.map PropShape.comment = ["in"] := by
    decide +kernel
  have hcomments := congrArg (fun document : RawDocument =>
    document.shapes.map PropShape.comment) heq
  exact absurd (halias.symm.trans (hcomments.trans hinterface)) (by decide)

end ComponentDocs
