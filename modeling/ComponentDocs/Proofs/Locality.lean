import ComponentDocs.Proofs.Continuation
import ComponentDocs.Proofs.DocumentedProps

/-!
A document does not change when unrelated statements follow.

Resolution looks up only names that the prop shape reaches, and a default counts
only under the name of a prop. Where a file goes on without declaring one of the
former or giving a default to one of the latter, nothing of what is added is
seen in the document.
-/

namespace ComponentDocs

open Source

/-! ### The defaults that statements can give -/

/-- The name of an entry that is written without brackets. -/
def Source.Entry.plainName? : Entry → Option String
  | .property key _ => key.plainName?
  | .spread _ => none

/-- The names that a defaults object lists. -/
def Source.Expr.defaultNames (initializer : Expr) : List String :=
  match initializer.core with
  | .object _ entries => entries.filterMap Entry.plainName?
  | _ => []

/-- The names that a static `defaultProps` field lists. -/
def Source.ClassMember.defaultNames : ClassMember → List String
  | .field true _ key _ (some value) =>
      if key.staticName? = some "defaultProps" then value.defaultNames else []
  | _ => []

mutual

/-- The names in the `defaultProps` objects that are seen in a declaration. -/
def Source.Decl.defaultNames : Decl → List String
  | .classDecl value =>
      if value.name.isSome then value.members.flatMap ClassMember.defaultNames
      else []
  | .namespaceDecl _ statements => defaultNamesOf .inNamespace statements
  | _ => []

/-- The names in the `defaultProps` objects that are seen in a statement. -/
def Source.Stmt.defaultNames (scope : Scope) : Stmt → List String
  | .exported _ (some value) => value.defaultNames
  | .exportedDefault _ value => value.defaultNames
  | .declaration value => if scope = .file then value.defaultNames else []
  | .expression _ (.assignment _ "=" (.member _ _ "defaultProps") value) =>
      if scope = .file then value.defaultNames else []
  | _ => []

/-- The names in the `defaultProps` objects that are seen in statements. -/
def defaultNamesOf (scope : Scope) : List Stmt → List String
  | [] => []
  | statement :: statements =>
      statement.defaultNames scope ++ defaultNamesOf scope statements

end

/-- The names under which findings give defaults. -/
def defaultKeys (findings : List Finding) : List String :=
  (findings.filterMap Finding.defaults?).flatMap OrderedMap.keys

theorem defaultKeys_eq_nil {findings : List Finding}
    (hnone : findings.filterMap Finding.defaults? = []) :
    defaultKeys findings = [] := by
  rw [defaultKeys, hnone]
  rfl

theorem defaultKeys_append (first second : List Finding) :
    defaultKeys (first ++ second) = defaultKeys first ++ defaultKeys second := by
  simp [defaultKeys]

theorem defaultKeys_flatMap {α : Type} (values : List α)
    (shown : α → List Finding) :
    defaultKeys (values.flatMap shown) =
      values.flatMap fun value => defaultKeys (shown value) := by
  induction values with
  | nil => rfl
  | cons value values ih => simp [defaultKeys_append, ih]

theorem keys_read_subset (source owner : String) (initializer : Expr) :
    (Defaults.read source owner initializer).values.keys ⊆
      initializer.defaultNames := by
  intro name hname
  unfold Defaults.read at hname
  cases hcore : initializer.core with
  | object span entries =>
      simp only [hcore, Defaults.ofOutcomes, OrderedMap.keys_ofList,
        List.mem_eraseDups, List.mem_map, List.mem_filterMap] at hname
      obtain ⟨kept, ⟨outcome, ⟨entry, hentry, rfl⟩, hkept⟩, rfl⟩ := hname
      simp only [Expr.defaultNames, hcore]
      refine List.mem_filterMap.mpr ⟨entry, hentry, ?_⟩
      cases entry with
      | spread value => simp [EntryOutcome.of] at hkept
      | property key value =>
          cases hkey : key.plainName? with
          | none => simp [EntryOutcome.of, hkey] at hkept
          | some name =>
              simp only [Entry.plainName?, hkey]
              simp only [EntryOutcome.of, hkey] at hkept
              grind
  | _ => simp [hcore, Defaults.ofOutcomes, OrderedMap.keys_ofList] at hname

theorem defaultKeys_defaultFindings_subset (source owner : String)
    (initializer : Expr) :
    defaultKeys (Extraction.defaultFindings source owner initializer) ⊆
      initializer.defaultNames := by
  have honly : (Extraction.defaultFindings source owner initializer).filterMap
      Finding.defaults? = [(Defaults.read source owner initializer).values] := by
    simp [Extraction.defaultFindings, Finding.defaults?, Function.comp_def]
  simpa [defaultKeys, honly] using keys_read_subset source owner initializer

theorem defaultKeys_memberFindings_subset (source owner : String)
    (member : ClassMember) :
    defaultKeys (Extraction.memberFindings source owner member) ⊆
      member.defaultNames := by
  unfold Extraction.memberFindings
  split
  · rename_i decorators key declaredType value
    by_cases hkey : key.staticName? = some "defaultProps"
    · cases value with
      | none =>
          rw [if_pos hkey, defaultKeys_eq_nil rfl]
          exact List.nil_subset _
      | some value =>
          simpa [hkey, ClassMember.defaultNames] using
            defaultKeys_defaultFindings_subset source owner value
    · simp [hkey, defaultKeys]
  · simp [defaultKeys]

section Shown

variable (it : Extraction)

theorem defaultKeys_ofClass_subset (anchor : Nat) (value : ClassNode) :
    defaultKeys (it.ofClass anchor value) ⊆
      (Decl.classDecl value).defaultNames := by
  unfold Extraction.ofClass
  split
  · rw [defaultKeys_eq_nil rfl]
    exact List.nil_subset _
  · rename_i name hname
    have hnote : ∀ note, defaultKeys [.note note] = [] := fun _ => rfl
    have hcomponent : ∀ component, defaultKeys [.component component] = [] :=
      fun _ => rfl
    rw [defaultKeys_append, defaultKeys_append, hnote, hcomponent,
      List.nil_append, List.append_nil, defaultKeys_flatMap]
    simp only [Decl.defaultNames, hname, Option.isSome_some, ↓reduceIte]
    intro key hkey
    obtain ⟨member, hmember, hkey⟩ := List.mem_flatMap.mp hkey
    exact List.mem_flatMap.mpr ⟨member, hmember,
      defaultKeys_memberFindings_subset it.file.text name member hkey⟩

theorem defaultKeys_ofExpression_subset (span : Span) (value : Expr) :
    defaultKeys (it.ofExpression value) ⊆
      (Stmt.expression span value).defaultNames .file := by
  unfold Extraction.ofExpression
  split
  · simp only [Stmt.defaultNames, ↓reduceIte]
    exact defaultKeys_defaultFindings_subset _ _ _
  · simp [defaultKeys]

mutual

/-- A declaration gives defaults only to names in the objects seen in it. -/
theorem defaultKeys_ofDecl_subset (scope : Scope) (anchor : Nat) (value : Decl) :
    defaultKeys (it.ofDecl scope anchor value) ⊆ value.defaultNames := by
  cases value with
  | classDecl value =>
      simpa only [Extraction.ofDecl] using
        defaultKeys_ofClass_subset it anchor value
  | functionDecl span value =>
      rw [Extraction.ofDecl, defaultKeys_eq_nil (it.ofFunction_apart
        Finding.defaults?_apartFromComponents anchor span value)]
      exact List.nil_subset _
  | variableDecl span bindings =>
      rw [Extraction.ofDecl, defaultKeys_flatMap, List.flatMap_eq_nil_iff.mpr
        fun binding _ => defaultKeys_eq_nil (it.ofDeclarator_apart
          Finding.defaults?_apartFromComponents anchor span.start binding)]
      exact List.nil_subset _
  | interfaceDecl span name generics bases members =>
      simp only [Extraction.ofDecl]
      split
      · simp [defaultKeys_eq_nil (it.shapeFindings_apart
          Finding.defaults?_apartFromShapes name _)]
      · simp [defaultKeys]
  | aliasDecl span name generics type =>
      simp only [Extraction.ofDecl]
      split
      · split
        · simp [defaultKeys_eq_nil (it.shapeFindings_apart
            Finding.defaults?_apartFromShapes name _)]
        · simp [defaultKeys]
      · simp [defaultKeys]
  | namespaceDecl span statements =>
      simpa only [Extraction.ofDecl, Decl.defaultNames] using
        defaultKeys_ofStatements_subset .inNamespace statements
  | other span parts => simp [Extraction.ofDecl, defaultKeys]

theorem defaultKeys_ofStatement_subset (scope : Scope) (statement : Stmt) :
    defaultKeys (it.ofStatement scope statement) ⊆
      statement.defaultNames scope := by
  cases statement with
  | declaration value =>
      simp only [Extraction.ofStatement, Stmt.defaultNames]
      split
      · exact defaultKeys_ofDecl_subset scope value.span.start value
      · simp [defaultKeys]
  | exported span value =>
      cases value with
      | none => simp [Extraction.ofStatement, defaultKeys]
      | some value =>
          simpa only [Extraction.ofStatement, Stmt.defaultNames] using
            defaultKeys_ofDecl_subset scope span.start value
  | exportedDefault span value =>
      simpa only [Extraction.ofStatement, Stmt.defaultNames] using
        defaultKeys_ofDecl_subset scope span.start value
  | expression span value =>
      simp only [Extraction.ofStatement]
      split
      · rename_i hscope
        subst hscope
        exact defaultKeys_ofExpression_subset it span value
      · simp [defaultKeys]
  | other span parts => simp [Extraction.ofStatement, defaultKeys]

theorem defaultKeys_ofStatements_subset (scope : Scope)
    (statements : List Stmt) :
    defaultKeys (it.ofStatements scope statements) ⊆
      defaultNamesOf scope statements := by
  cases statements with
  | nil => simp [Extraction.ofStatements, defaultKeys]
  | cons statement statements =>
      simp only [Extraction.ofStatements, defaultKeys_append, defaultNamesOf]
      exact List.append_subset.mpr
        ⟨List.subset_append_of_subset_left _
            (defaultKeys_ofStatement_subset scope statement),
          List.subset_append_of_subset_right _
            (defaultKeys_ofStatements_subset scope statements)⟩

end

end Shown

/-! ### What of the added statements is seen -/

/-- The signatures of a shape lie inside the declaration that introduces it. -/
theorem Source.Decl.spans_of_shape? {value : Decl} {name : String}
    {source : ShapeSource} (hshape : value.shape? = some (name, source)) :
    spansOfSignatures source.members ⊆ value.spans := by
  cases value with
  | interfaceDecl span shapeName generics bases members =>
      simp only [Decl.shape?, Option.some.injEq, Prod.mk.injEq] at hshape
      obtain ⟨_, rfl⟩ := hshape
      simp only [Decl.spans]
      exact List.subset_append_right _ _
  | aliasDecl span shapeName generics type =>
      cases type with
      | literal inside members =>
          simp only [Decl.shape?, Option.some.injEq, Prod.mk.injEq] at hshape
          obtain ⟨_, rfl⟩ := hshape
          simp only [Decl.spans, TypeExpr.spans]
          exact List.subset_append_of_subset_right _ (List.subset_cons_self _ _)
      | _ => simp [Decl.shape?] at hshape
  | _ => simp [Decl.shape?] at hshape

theorem Source.Stmt.spans_of_shape? {statement : Stmt} {name : String}
    {source : ShapeSource} (hshape : statement.shape? = some (name, source)) :
    spansOfSignatures source.members ⊆ statement.spans := by
  cases statement with
  | declaration value =>
      simpa only [Stmt.spans] using Decl.spans_of_shape? hshape
  | exported span value =>
      cases value with
      | none => simp [Stmt.shape?] at hshape
      | some value =>
          simp only [Stmt.spans]
          exact List.subset_cons_of_subset span (Decl.spans_of_shape? hshape)
  | exportedDefault span value =>
      simp only [Stmt.spans]
      exact List.subset_cons_of_subset span (Decl.spans_of_shape? hshape)
  | expression span value => simp [Stmt.shape?] at hshape
  | other span parts => simp [Stmt.shape?] at hshape

theorem spans_of_lastShape? {file : File} {name : String} {source : ShapeSource}
    (hshape : lastShape? file.statements name = some source) :
    spansOfSignatures source.members ⊆ file.spans := by
  obtain ⟨declared, hdeclared, rfl⟩ := Option.map_eq_some_iff.mp hshape
  have hmem := List.mem_reverse.mp (List.mem_of_find?_eq_some hdeclared)
  obtain ⟨statement, hstatement, hintroduces⟩ := List.mem_filterMap.mp hmem
  exact List.Subset.trans (Stmt.spans_of_shape? hintroduces)
    (Stmt.spans_subset hstatement)

/-- The props of a shape depend only on its members and their defaults. -/
theorem props_congr {options : Options}
    {defaults others : OrderedMap String String} {shape other : PropShape}
    (hmembers : other.members = shape.members)
    (hdefaults : ∀ name ∈ namesOf shape.members,
      others.get? name = defaults.get? name) :
    other.props options others = shape.props options defaults := by
  unfold PropShape.props
  rw [hmembers]
  refine congrArg OrderedMap.ofList (List.map_congr_left fun member hmember => ?_)
  rw [PropMember.document, PropMember.document,
    hdefaults member.name (mem_namesOf.mpr ⟨member, hmember, rfl⟩)]

section Whole

variable {file whole : File} {later : List Stmt} {options : Options}

/-- The members of a shape whose reach is not declared anew are the same. -/
theorem resolveShape_of_continues (hwhole : file.Continues whole later)
    {shapeName : String}
    (hshapes : ∀ name, Reaches (lastShape? file.statements) shapeName name →
      name ∉ (later.filterMap Stmt.shape?).map Prod.fst) :
    resolveShape whole (ShapeTable.ofStatements whole.statements) shapeName =
      resolveShape file (ShapeTable.ofStatements file.statements) shapeName := by
  refine resolveUpTo_congr fun name hreach => ?_
  rw [get?_ofStatements] at hreach
  rw [get?_ofStatements, get?_ofStatements, hwhole.statements]
  refine ⟨lastShape?_append_of_not_mem (hshapes name hreach), ?_⟩
  intro source hsource
  refine List.filterMap_congr fun signature hsignature => ?_
  exact memberOf?_of_continues hwhole
    (List.Subset.trans (Signature.spans_subset hsignature)
      (spans_of_lastShape? hsource))

/-- Shapes apart, what is found in the whole starts with what was found. -/
theorem findings_of_continues {α : Type} {part : Finding → Option α}
    (hpart : Finding.ApartFromShapes part)
    (hwhole : file.Continues whole later) :
    (whole.findings options).filterMap part =
      (file.findings options).filterMap part ++
        (Extraction.ofStatements ⟨whole, options,
          ShapeTable.ofStatements whole.statements⟩ .file later).filterMap
          part := by
  have hold : (Extraction.ofStatements ⟨whole, options,
        ShapeTable.ofStatements whole.statements⟩ .file
        file.statements).filterMap part =
      (file.findings options).filterMap part :=
    ofStatements_of_continues hpart hwhole .file file.statements
      (List.Subset.refl _)
  rw [← hold, ← List.filterMap_append, File.findings]
  nth_rewrite 2 [hwhole.statements]
  simp only [Extraction.ofStatements_eq_flatMap, List.flatMap_append]

/-- The component that was selected stays the first one. -/
theorem selected?_of_continues (hwhole : file.Continues whole later)
    {component : Component}
    (hselected : (file.rawDocument options).selected? options = some component) :
    (whole.rawDocument options).selected? options = some component := by
  rw [RawDocument.selected?, File.rawDocument,
    RawDocument.components_ofFindings] at hselected ⊢
  rw [findings_of_continues Finding.component?_apartFromShapes hwhole,
    List.find?_append, hselected]
  rfl

/-- A name that no added object lists has the default that it had. -/
theorem defaults_of_continues (hwhole : file.Continues whole later)
    {name : String} (hname : name ∉ defaultNamesOf .file later) :
    (whole.rawDocument options).defaults.get? name =
      (file.rawDocument options).defaults.get? name := by
  rw [File.rawDocument, File.rawDocument, RawDocument.defaults_ofFindings,
    RawDocument.defaults_ofFindings,
    findings_of_continues Finding.defaults?_apartFromShapes hwhole,
    List.flatMap_append, OrderedMap.ofList, OrderedMap.insertAll_append]
  refine OrderedMap.get?_insertAll_of_not_mem _ _ name fun hmem => ?_
  rw [List.map_flatMap] at hmem
  exact hname (defaultKeys_ofStatements_subset _ .file later hmem)

/--
The document is local. Statements that follow do not change it if they declare
no shape that the component's shape reaches, by the declarations that were there
and with undeclared bases among what is reached, and if no `defaultProps` object
that is seen in them lists the name of a documented prop.
-/
theorem documentation_is_local {component : Component}
    (hwhole : file.Continues whole later)
    (hselected : (file.rawDocument options).selected? options = some component)
    (hshapes : ∀ shapeName, component.props = some shapeName →
      ∀ name, Reaches (lastShape? file.statements) shapeName name →
        name ∉ (later.filterMap Stmt.shape?).map Prod.fst)
    (hdefaults : ∀ names, ((file.rawDocument options).assemble
        options).documentation.propNames? = some names →
      ∀ name ∈ names, name ∉ defaultNamesOf .file later) :
    ((whole.rawDocument options).assemble options).documentation =
      ((file.rawDocument options).assemble options).documentation := by
  have hselectedWhole := selected?_of_continues hwhole hselected
  cases hprops : component.props with
  | none => simp [RawDocument.assemble, hselected, hselectedWhole, hprops]
  | some shapeName =>
      have hreach := hshapes shapeName hprops
      have hlast : lastShape? whole.statements shapeName =
          lastShape? file.statements shapeName := by
        rw [hwhole.statements]
        exact lastShape?_append_of_not_mem
          (hreach shapeName (Reaches.refl _ shapeName))
      cases hdeclared : lastShape? file.statements shapeName with
      | none =>
          simp [RawDocument.assemble, hselected, hselectedWhole, hprops,
            rawDocument_shape?_eq_none options hdeclared,
            rawDocument_shape?_eq_none options (hlast.trans hdeclared)]
      | some source =>
          obtain ⟨comment, hdocument⟩ :=
            assemble_of_declared hselected hprops hdeclared
          obtain ⟨wholeComment, hwholeDocument⟩ :=
            assemble_of_declared hselectedWhole hprops (hlast.trans hdeclared)
          have hnames := hdefaults _ (by rw [hdocument]; rfl)
          rw [hdocument, hwholeDocument,
            resolveShape_of_continues hwhole hreach]
          refine congrArg (fun props => Documentation.document
            (component.document options props)) (props_congr rfl ?_)
          intro name hname
          refine defaults_of_continues hwhole (hnames name ?_)
          change name ∈ (PropShape.props options _ _).keys
          rw [keys_props, List.mem_eraseDups]
          exact hname

end Whole

/-- A component and its shape, which has a base that is not declared. -/
def firstPart : String :=
  "/** D */class W extends Component<P>\x7bstatic defaultProps=\x7ba:1\x7d\x7d\n" ++
  "interface P extends M\x7b/** A */a?:2|3\x7d"

/-- Another component with its shape, and a namespace that repeats a name. -/
def secondPart : String :=
  "\n/** E */class V extends Component<Q>\x7bstatic defaultProps=\x7bz:5\x7d\x7d\n" ++
  "interface Q\x7ba:4\x7d\nnamespace N\x7bexport interface P\x7b\x7d\x7d"

theorem documentation_of_firstPart_is_local :
    ∃ file whole later,
      File.parse? "W.tsx" firstPart = some file ∧
      File.Continues file whole later ∧
      whole.text = firstPart ++ secondPart ∧ later.length = 3 ∧
      ((file.rawDocument .default).assemble .default).documentation.propNames? =
        some ["a"] ∧
      ((whole.rawDocument .default).assemble .default).documentation =
        ((file.rawDocument .default).assemble .default).documentation := by
  -- one evaluation of the parser answers all questions
  have hparsed : ((File.parse? "W.tsx" firstPart).bind fun file =>
      (File.parse? "W.tsx" (firstPart ++ secondPart)).map fun parsed =>
        let later := parsed.statements.drop 2
        decide (file.text = firstPart ∧
          (∀ span ∈ file.spans, span.stop ≤ file.size) ∧
          (∀ span ∈ file.spans,
            parsed.docs.get? span.start = file.docs.get? span.start) ∧
          (∀ span ∈ file.spans, ∀ comment ∈ file.docs.get? span.start,
            comment.stop ≤ file.size) ∧
          (file.rawDocument .default).selected? .default =
            some ⟨"W", .classBased, some "Component", some "P", "D"⟩ ∧
          (lastShape? file.statements "P").map ShapeSource.bases = some ["M"] ∧
          (lastShape? file.statements "M").map ShapeSource.bases = none ∧
          ((file.rawDocument .default).assemble
            .default).documentation.propNames? = some ["a"] ∧
          later.length = 3 ∧
          (later.filterMap Stmt.shape?).map Prod.fst = ["Q"] ∧
          defaultNamesOf .file later = ["z"])) = some true := by
    decide +kernel
  obtain ⟨file, hparse, hmap⟩ := Option.bind_eq_some_iff.mp hparsed
  obtain ⟨parsed, _, hfacts⟩ := Option.map_eq_some_iff.mp hmap
  obtain ⟨htext, hinside, hcomments, hcommentsInside, hselected, hbases,
    hunknown, hprops, hlength, hdeclared, hdefaults⟩ := of_decide_eq_true hfacts
  let whole : File := ⟨firstPart ++ secondPart,
    file.statements ++ parsed.statements.drop 2, parsed.docs⟩
  have hwhole : file.Continues whole (parsed.statements.drop 2) :=
    ⟨⟨secondPart, by rw [htext]⟩, rfl, hinside, hcomments, hcommentsInside⟩
  have hreach : ∀ name, Reaches (lastShape? file.statements) "P" name →
      name ∈ ["P", "M"] := by
    intro name hname
    refine hname.mem_of_closed List.mem_cons_self ?_
    intro member hmember shape hshape base hbase
    rcases List.mem_pair.mp hmember with rfl | rfl
    · rw [hshape, Option.map_some, Option.some.injEq] at hbases
      rw [hbases, List.mem_singleton] at hbase
      simp [hbase]
    · simp [hshape] at hunknown
  refine ⟨file, whole, parsed.statements.drop 2, hparse, hwhole, rfl,
    hlength, hprops, documentation_is_local hwhole hselected ?_ ?_⟩
  · intro shapeName hname name hreached
    obtain rfl := Option.some.inj hname
    rw [hdeclared]
    rcases List.mem_pair.mp (hreach name hreached) with rfl | rfl <;> decide
  · intro names hnames name hname
    rw [hprops, Option.some.injEq] at hnames
    subst hnames
    rw [hdefaults, List.mem_singleton.mp hname]
    decide

end ComponentDocs
