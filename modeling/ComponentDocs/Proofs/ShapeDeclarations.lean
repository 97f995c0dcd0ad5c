import ComponentDocs.Proofs.Accumulation
import ComponentDocs.Proofs.DefaultExports
import ComponentDocs.Proofs.DocumentedProps

/-!
The table of shapes and the shapes that are found come from the same statements.

Statements are classified twice: once for the table by which members are
resolved, and once where the shapes of the document are found. `Declares` lists
the forms of a shape's declaration by themselves, and both classifications are
compared with it. A shape of the document is then described by the last
declaration of its name, and the shapes stand in the order of these.
-/

namespace ComponentDocs

open Source

/-! ### The forms of a declaration -/

/-- A declaration of a prop shape, and the offsets where its comment may stand. -/
structure ShapeDeclaration where
  name : String
  signatures : List Signature
  anchors : List Nat

/--
The statements that declare a prop shape: an interface, exported or not or by
default, and an object type with a name, exported or not.
-/
inductive Declares : Stmt → ShapeDeclaration → Prop where
  | plainInterface (span : Span) (name : String) (generics : List Part)
      (bases : List Base) (signatures : List Signature) :
      Declares (.declaration (.interfaceDecl span name generics bases signatures))
        ⟨name, signatures, [span.start]⟩
  | exportedInterface (outer span : Span) (name : String) (generics : List Part)
      (bases : List Base) (signatures : List Signature) :
      Declares (.exported outer
          (some (.interfaceDecl span name generics bases signatures)))
        ⟨name, signatures, [outer.start, span.start]⟩
  | defaultInterface (outer span : Span) (name : String) (generics : List Part)
      (bases : List Base) (signatures : List Signature) :
      Declares (.exportedDefault outer
          (.interfaceDecl span name generics bases signatures))
        ⟨name, signatures, [outer.start, span.start]⟩
  | plainAlias (span inside : Span) (name : String) (generics : List Part)
      (signatures : List Signature) :
      Declares (.declaration
          (.aliasDecl span name generics (.literal inside signatures)))
        ⟨name, signatures, [span.start]⟩
  | exportedAlias (outer span inside : Span) (name : String)
      (generics : List Part) (signatures : List Signature) :
      Declares (.exported outer
          (some (.aliasDecl span name generics (.literal inside signatures))))
        ⟨name, signatures, [outer.start]⟩

/-- A top-level statement of a file declares a shape of a name. -/
def Source.File.DeclaresShape (file : File) (name : String) : Prop :=
  ∃ statement ∈ file.statements, ∃ declared,
    Declares statement declared ∧ declared.name = name

theorem comment_twice (file : File) (anchor : Nat) :
    file.comment [anchor, anchor] = file.comment [anchor] := by
  unfold File.comment commentAt
  cases hdoc : file.docs.get? anchor <;> simp [hdoc]

section Forms

variable {statement : Stmt} {declared : ShapeDeclaration}

/-- What is declared enters the table under its name. -/
theorem Declares.shape? (hdeclares : Declares statement declared) :
    ∃ bases, statement.shape? =
      some (declared.name, ⟨declared.signatures, bases⟩) := by
  cases hdeclares <;> exact ⟨_, rfl⟩

theorem Declares.comment (hdeclares : Declares statement declared)
    (file : File) :
    file.comment statement.commentAnchors = file.comment declared.anchors := by
  cases hdeclares with
  -- A statement that is not exported is looked up at its start twice.
  | plainInterface span => exact comment_twice file span.start
  | exportedInterface => rfl
  | defaultInterface => rfl
  | plainAlias => rfl
  | exportedAlias => rfl

variable {name : String} {source : ShapeSource}

/-- The declarations that enter the table. -/
theorem Source.Decl.form_of_shape? {value : Decl}
    (hvalue : value.shape? = some (name, source)) :
    (∃ span generics bases, value =
      .interfaceDecl span name generics bases source.members) ∨
    ∃ span generics inside, value =
      .aliasDecl span name generics (.literal inside source.members) := by
  unfold Decl.shape? at hvalue
  split at hvalue
  · cases hvalue
    exact Or.inl ⟨_, _, _, rfl⟩
  · cases hvalue
    exact Or.inr ⟨_, _, _, rfl⟩
  · exact absurd hvalue (by simp)

/-- What enters the table is declared in one of the forms. -/
theorem exists_declares
    (hgrammar : statement.ExportsByGrammar)
    (hshape : statement.shape? = some (name, source)) :
    ∃ declared, Declares statement declared ∧ declared.name = name ∧
      declared.signatures = source.members := by
  cases statement with
  | declaration value =>
      rcases Decl.form_of_shape? hshape with ⟨_, _, _, rfl⟩ | ⟨_, _, _, rfl⟩
      · exact ⟨_, .plainInterface .., rfl, rfl⟩
      · exact ⟨_, .plainAlias .., rfl, rfl⟩
  | exported outer value =>
      cases value with
      | none => exact absurd hshape (by simp [Stmt.shape?])
      | some value =>
          rcases Decl.form_of_shape? hshape with ⟨_, _, _, rfl⟩ | ⟨_, _, _, rfl⟩
          · exact ⟨_, .exportedInterface .., rfl, rfl⟩
          · exact ⟨_, .exportedAlias .., rfl, rfl⟩
  | exportedDefault outer value =>
      rcases Decl.form_of_shape? hshape with ⟨_, _, _, rfl⟩ | ⟨_, _, _, rfl⟩
      · exact ⟨_, .defaultInterface .., rfl, rfl⟩
      · -- The table would take such an alias, but no file has one.
        exact absurd hgrammar (by simp [Stmt.ExportsByGrammar])
  | expression span value => exact absurd hshape (by simp [Stmt.shape?])
  | other span parts => exact absurd hshape (by simp [Stmt.shape?])

end Forms

/-! ### Last positions -/

section Positions

variable {α β κ : Type}

/-- The last item of a list that has a name stands at a position. -/
def LastAt (name? : α → Option κ) (items : List α) (position : Nat)
    (name : κ) : Prop :=
  (∃ item, items[position]? = some item ∧ name? item = some name) ∧
  ∀ later item, position < later → items[later]? = some item →
    name? item ≠ some name

theorem LastAt.cons {name? : α → Option κ} {items : List α} {position : Nat}
    {name : κ} (hlast : LastAt name? items position name) (first : α) :
    LastAt name? (first :: items) (position + 1) name := by
  obtain ⟨⟨item, hitem, hname⟩, hlater⟩ := hlast
  refine ⟨⟨item, by simpa using hitem, hname⟩, ?_⟩
  intro later other hlt hother
  cases later with
  | zero => exact absurd hlt (Nat.not_lt_zero _)
  | succ later =>
      exact hlater later other (Nat.lt_of_succ_lt_succ hlt) (by simpa using hother)

/-- The names of a list, each at its last place, have increasing positions. -/
theorem exists_last_positions [DecidableEq κ] (name? : α → Option κ)
    (items : List α) :
    ∃ positions : List Nat, positions.Pairwise (· < ·) ∧
      List.Forall₂ (fun name position => LastAt name? items position name)
        (items.filterMap name?).dedup positions := by
  induction items with
  | nil => exact ⟨[], List.Pairwise.nil, List.Forall₂.nil⟩
  | cons first rest ih =>
      obtain ⟨positions, hincreasing, hlast⟩ := ih
      have hmoved : (positions.map (· + 1)).Pairwise (· < ·) := by
        rw [List.pairwise_map]
        exact hincreasing.imp (fun hlt => Nat.succ_lt_succ hlt)
      have hrest : List.Forall₂
          (fun name position => LastAt name? (first :: rest) position name)
          (rest.filterMap name?).dedup (positions.map (· + 1)) := by
        rw [List.forall₂_map_right_iff]
        exact hlast.imp (fun name position hat => hat.cons first)
      cases hfirst : name? first with
      | none =>
          rw [List.filterMap_cons_none hfirst]
          exact ⟨_, hmoved, hrest⟩
      | some name =>
          rw [List.filterMap_cons_some hfirst]
          -- `dedup` drops the first item exactly if its name comes again.
          by_cases hagain : name ∈ rest.filterMap name?
          · rw [List.dedup_cons_of_mem hagain]
            exact ⟨_, hmoved, hrest⟩
          · rw [List.dedup_cons_of_notMem hagain]
            refine ⟨0 :: positions.map (· + 1), ?_, .cons ?_ hrest⟩
            · rw [List.pairwise_cons]
              refine ⟨?_, hmoved⟩
              intro position hposition
              obtain ⟨before, _, rfl⟩ := List.mem_map.mp hposition
              exact Nat.succ_pos before
            · refine ⟨⟨first, rfl, hfirst⟩, ?_⟩
              intro later item hlt hitem hname
              cases later with
              | zero => exact absurd hlt (Nat.lt_irrefl 0)
              | succ later =>
                  rw [List.getElem?_cons_succ] at hitem
                  exact hagain (List.mem_filterMap.mpr
                    ⟨item, List.mem_of_getElem? hitem, hname⟩)

/-- The last item that fits is found from behind. -/
theorem find?_reverse_filterMap_of_last {found : α → Option β}
    {fits : β → Bool} {items : List α} {position : Nat} {item : α} {value : β}
    (hitem : items[position]? = some item) (hfound : found item = some value)
    (hfits : fits value = true)
    (hlater : ∀ later other, position < later → items[later]? = some other →
      ∀ beside, found other = some beside → fits beside = false) :
    (items.filterMap found).reverse.find? fits = some value := by
  obtain ⟨hlt, rfl⟩ := List.getElem?_eq_some_iff.mp hitem
  have hsplit : items =
      items.take position ++ items[position] :: items.drop (position + 1) := by
    rw [List.getElem_cons_drop, List.take_append_drop]
  have hnone : ((items.drop (position + 1)).filterMap found).reverse.find?
      fits = none := by
    rw [List.find?_eq_none]
    intro beside hbeside
    obtain ⟨other, hother, hvalue⟩ :=
      List.mem_filterMap.mp (List.mem_reverse.mp hbeside)
    obtain ⟨index, hindex⟩ := List.mem_iff_getElem?.mp hother
    rw [List.getElem?_drop] at hindex
    simp [hlater _ other (by omega) hindex beside hvalue]
  rw [hsplit, List.filterMap_append, List.filterMap_cons_some hfound,
    List.reverse_append, List.reverse_cons, List.find?_append,
    List.find?_append, hnone]
  simp [hfits]

end Positions

/-! ### Shapes and their last declarations -/

/-- A declaration is the last one of its name, and stands at a position. -/
def LastDeclaredAt (statements : List Stmt) (position : Nat)
    (declared : ShapeDeclaration) : Prop :=
  (∃ statement, statements[position]? = some statement ∧
    Declares statement declared) ∧
  ∀ later statement other, position < later →
    statements[later]? = some statement → Declares statement other →
      other.name ≠ declared.name

/-- The name of the shape that a statement puts into the table. -/
def Source.Stmt.shapeName? (statement : Stmt) : Option String :=
  statement.shape?.map Prod.fst

theorem filterMap_shapeName? (statements : List Stmt) :
    statements.filterMap Stmt.shapeName? =
      (statements.filterMap Stmt.shape?).map Prod.fst := by
  rw [List.map_filterMap]
  rfl

section Files

variable {file : File} {position : Nat} {name : String}

/-- The names of a document's shapes are those of the table, by last place. -/
theorem rawDocument_shape_names (file : File) (options : Options) :
    (file.rawDocument options).shapes.map PropShape.name =
      (file.statements.filterMap Stmt.shapeName?).dedup := by
  rw [File.rawDocument, RawDocument.shape_names_ofFindings, File.findings,
    Extraction.ofStatements_shape_names, filterMap_shapeName?]

/-- The shape of a name is the one that the last statement of it shows. -/
theorem rawDocument_shape?_of_lastAt (options : Options)
    (hlast : LastAt Stmt.shapeName? file.statements position name) :
    ∃ statement source, file.statements[position]? = some statement ∧
      statement.shape? = some (name, source) ∧
      lastShape? file.statements name = some source ∧
      (file.rawDocument options).shape? name =
        some ⟨name, (resolveShape file (ShapeTable.ofStatements file.statements)
          name).members, file.comment statement.commentAnchors⟩ := by
  obtain ⟨⟨statement, hstatement, hname⟩, hlater⟩ := hlast
  obtain ⟨⟨_, source⟩, hshape, rfl⟩ := Option.map_eq_some_iff.mp hname
  refine ⟨statement, source, hstatement, hshape, ?_, ?_⟩
  · rw [lastShape?, find?_reverse_filterMap_of_last hstatement hshape (by simp)]
    · rfl
    · intro later other hlt hother beside hbeside
      have hne := hlater later other hlt hother
      simpa [Stmt.shapeName?, hbeside] using hne
  · rw [File.rawDocument, RawDocument.shape?_ofFindings, File.findings,
      Extraction.ofStatements_file_shapes]
    refine find?_reverse_filterMap_of_last hstatement
      (by simp [Extraction.shown?, hshape]) (by simp) ?_
    intro later other hlt hother beside hbeside
    have hne := hlater later other hlt hother
    obtain ⟨declared, hdeclared, rfl⟩ := Option.map_eq_some_iff.mp hbeside
    simpa [Stmt.shapeName?, hdeclared] using hne

/-- A declared name is one that the table has. -/
theorem declaresShape_iff
    (hgrammar : ∀ statement ∈ file.statements, statement.ExportsByGrammar) :
    file.DeclaresShape name ↔
      name ∈ file.statements.filterMap Stmt.shapeName? := by
  rw [List.mem_filterMap]
  constructor
  · rintro ⟨statement, hmem, declared, hdeclares, rfl⟩
    obtain ⟨bases, hshape⟩ := hdeclares.shape?
    exact ⟨statement, hmem, by simp [Stmt.shapeName?, hshape]⟩
  · rintro ⟨statement, hmem, hname⟩
    obtain ⟨⟨_, source⟩, hshape, rfl⟩ := Option.map_eq_some_iff.mp hname
    obtain ⟨declared, hdeclares, hsame, _⟩ :=
      exists_declares (hgrammar statement hmem) hshape
    exact ⟨statement, hmem, declared, hdeclares, hsame⟩

/-- The table has a name exactly if a statement puts it there. -/
theorem get?_ofStatements_isSome_iff :
    ((ShapeTable.ofStatements file.statements).get? name).isSome ↔
      name ∈ file.statements.filterMap Stmt.shapeName? := by
  rw [get?_ofStatements, Option.isSome_iff_ne_none, Ne, lastShape?_eq_none_iff,
    filterMap_shapeName?, not_not]

end Files

/--
A shape has the name and the comment of a declaration. Its members are those
that its name resolves to in the table, and the declared ones stand in front.
-/
structure PropShape.DescribedBy (shape : PropShape) (file : File)
    (declared : ShapeDeclaration) : Prop where
  name : shape.name = declared.name
  comment : shape.comment = file.comment declared.anchors
  resolved : shape.members = (resolveShape file
    (ShapeTable.ofStatements file.statements) declared.name).members
  own : ∃ inherited, shape.members =
    declared.signatures.filterMap (memberOf? file) ++ inherited

/-- The shape of a name is described by the last declaration of that name. -/
theorem describedBy_of_lastAt {file : File} {options : Options}
    {shape : PropShape} {position : Nat}
    (hgrammar : ∀ statement ∈ file.statements, statement.ExportsByGrammar)
    (hshape : shape ∈ (file.rawDocument options).shapes)
    (hlast : LastAt Stmt.shapeName? file.statements position shape.name) :
    ∃ declared, LastDeclaredAt file.statements position declared ∧
      shape.DescribedBy file declared := by
  obtain ⟨statement, source, hstatement, hdeclared, hsource, hfound⟩ :=
    rawDocument_shape?_of_lastAt options hlast
  obtain ⟨declared, hdeclares, hname, hsignatures⟩ := exists_declares
    (hgrammar statement (List.mem_of_getElem? hstatement)) hdeclared
  have hself := (RawDocument.mem_shapes_iff
    (RawDocument.ofFindings_distinctShapes _) shape).mp hshape
  have hequal := Option.some.inj (hself.symm.trans hfound)
  have hmembers := congrArg PropShape.members hequal
  refine ⟨declared, ⟨⟨statement, hstatement, hdeclares⟩, ?_⟩, hname.symm, ?_,
    ?_, ?_⟩
  · intro later otherStatement other hlt hother hdeclaresOther hsame
    obtain ⟨bases, hotherShape⟩ := hdeclaresOther.shape?
    refine hlast.2 later otherStatement hlt hother ?_
    simp [Stmt.shapeName?, hotherShape, hsame, hname]
  · rw [← hdeclares.comment file]
    exact congrArg PropShape.comment hequal
  · rw [hname]
    exact hmembers
  · rw [← get?_ofStatements] at hsource
    obtain ⟨inherited, happend⟩ := resolveShape_members_eq_append file hsource
    rw [hsignatures]
    exact ⟨inherited, hmembers.trans happend⟩

/--
What is found as a shape is what the table holds. No two shapes of a document
have the same name, and their names are those of the table, which are those that
some statement declares. The shapes stand in the order of the last declarations
of their names, and each one is described by that last declaration.
-/
theorem shapes_found_are_shapes_declared {path text : String} {file : File}
    (hparse : File.parse? path text = some file) (options : Options) :
    let shapes := (file.rawDocument options).shapes
    (shapes.map PropShape.name).Nodup ∧
    (∀ name, name ∈ shapes.map PropShape.name ↔
      ((ShapeTable.ofStatements file.statements).get? name).isSome) ∧
    (∀ name, name ∈ shapes.map PropShape.name ↔ file.DeclaresShape name) ∧
    ∃ positions : List Nat, positions.Pairwise (· < ·) ∧
      List.Forall₂ (fun shape position => ∃ declared,
          LastDeclaredAt file.statements position declared ∧
          shape.DescribedBy file declared)
        shapes positions := by
  intro shapes
  have hgrammar := File.exportsByGrammar hparse
  have hnames : shapes.map PropShape.name =
      (file.statements.filterMap Stmt.shapeName?).dedup :=
    rawDocument_shape_names file options
  refine ⟨RawDocument.ofFindings_distinctShapes _, ?_, ?_, ?_⟩
  · intro name
    rw [hnames, List.mem_dedup, get?_ofStatements_isSome_iff]
  · intro name
    rw [hnames, List.mem_dedup, declaresShape_iff hgrammar]
  · obtain ⟨positions, hincreasing, hlast⟩ :=
      exists_last_positions Stmt.shapeName? file.statements
    rw [← hnames, List.forall₂_map_left_iff] at hlast
    have hboth := (List.forall₂_and_left (p := (· ∈ shapes)) _ _).mpr
      ⟨fun _ hshape => hshape, hlast⟩
    refine ⟨positions, hincreasing, hboth.imp ?_⟩
    rintro shape position ⟨hshape, hat⟩
    exact describedBy_of_lastAt hgrammar hshape hat

/-- Declarations of one name in three forms, and bases that are declared later. -/
def redeclaredShapes : String :=
  "type P=\x7ba:1\x7d\nexport type Q=\x7bb:2\x7d\n/** first */interface P\x7b\x7d\n" ++
  "export interface R extends P\x7b\x7d\n" ++
  "/** last */export default interface P extends Q,Z\x7bc:3\x7d\n" ++
  "type Z=\x7bz:4\x7d"

theorem shapes_found_in_redeclaredShapes :
    ∃ file, File.parse? "P.tsx" redeclaredShapes = some file ∧
      ((file.rawDocument .default).shapes.map fun shape =>
        (shape.name, shape.comment, namesOf shape.members)) =
        [("Q", "", ["b"]), ("R", "", ["c", "b", "z"]),
          ("P", "last", ["c", "b", "z"]), ("Z", "", ["z"])] ∧
      ∃ positions : List Nat, positions.Pairwise (· < ·) ∧
        List.Forall₂ (fun shape position => ∃ declared,
            LastDeclaredAt file.statements position declared ∧
            shape.DescribedBy file declared)
          (file.rawDocument .default).shapes positions := by
  have hparsed : (File.parse? "P.tsx" redeclaredShapes).map (fun file =>
      (file.rawDocument .default).shapes.map fun shape =>
        (shape.name, shape.comment, namesOf shape.members)) =
      some [("Q", "", ["b"]), ("R", "", ["c", "b", "z"]),
        ("P", "last", ["c", "b", "z"]), ("Z", "", ["z"])] := by
    decide +kernel
  obtain ⟨file, hparse, hshapes⟩ := Option.map_eq_some_iff.mp hparsed
  exact ⟨file, hparse, hshapes,
    (shapes_found_are_shapes_declared hparse .default).2.2.2⟩

end ComponentDocs
