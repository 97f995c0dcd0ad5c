import ComponentDocs.Proofs.ShapeDeclarations

/-!
What the diagnostics of a file say about its documentation.

Extraction only reports default values that could not be read. Assembly adds at
most one diagnostic to these, and which one it adds tells what became of the
first component: `Outcome` has one rule for each of the three ways in which
assembly ends, and every statement about diagnostics is read off its rules.
-/

namespace ComponentDocs

open Source

/-! ### What extraction reports -/

/-- A diagnostic about default values that could not be read. -/
def Diagnostic.AboutDefaults : Diagnostic → Prop
  | .malformedDefaults _ _ _ => True
  | _ => False

theorem Finding.problem?_apartFromComponents : ApartFromComponents problem? :=
  ⟨fun _ => rfl, fun _ => rfl⟩

theorem Finding.problem?_apartFromShapes : ApartFromShapes problem? :=
  ⟨fun _ => rfl, fun _ => rfl⟩

/-- All diagnostics among findings are about default values. -/
def ReportDefaults (findings : List Finding) : Prop :=
  ∀ diagnostic ∈ findings.filterMap Finding.problem?, diagnostic.AboutDefaults

theorem reportDefaults_of_none {findings : List Finding}
    (hnone : findings.filterMap Finding.problem? = []) :
    ReportDefaults findings := by
  intro diagnostic hdiagnostic
  rw [hnone] at hdiagnostic
  exact absurd hdiagnostic List.not_mem_nil

theorem ReportDefaults.append {first second : List Finding}
    (hfirst : ReportDefaults first) (hsecond : ReportDefaults second) :
    ReportDefaults (first ++ second) := by
  intro diagnostic hdiagnostic
  rw [List.filterMap_append, List.mem_append] at hdiagnostic
  rcases hdiagnostic with hmem | hmem
  · exact hfirst diagnostic hmem
  · exact hsecond diagnostic hmem

theorem reportDefaults_flatMap {α : Type} {items : List α}
    {findingsOf : α → List Finding} (hitems : ∀ item, ReportDefaults (findingsOf item)) :
    ReportDefaults (items.flatMap findingsOf) := by
  intro diagnostic hdiagnostic
  rw [List.filterMap_flatMap, List.mem_flatMap] at hdiagnostic
  obtain ⟨item, _, hmem⟩ := hdiagnostic
  exact hitems item diagnostic hmem

theorem Defaults.diagnostics_ofOutcomes (owner : String)
    (outcomes : List EntryOutcome) :
    ∀ diagnostic ∈ (Defaults.ofOutcomes owner outcomes).diagnostics,
      diagnostic.AboutDefaults := by
  intro diagnostic hdiagnostic
  obtain ⟨outcome, _, hreported⟩ := List.mem_filterMap.mp hdiagnostic
  cases outcome with
  | kept name value => exact absurd hreported (by simp)
  | discarded name => exact absurd hreported (by simp)
  | refused name reason =>
      obtain rfl := Option.some.inj hreported
      trivial

theorem Defaults.diagnostics_read (source owner : String) (initializer : Expr) :
    ∀ diagnostic ∈ (Defaults.read source owner initializer).diagnostics,
      diagnostic.AboutDefaults := by
  unfold Defaults.read
  split
  · exact diagnostics_ofOutcomes owner _
  · exact diagnostics_ofOutcomes owner _

namespace Extraction

theorem defaultFindings_reportDefaults (source owner : String)
    (initializer : Expr) :
    ReportDefaults (defaultFindings source owner initializer) := by
  intro diagnostic hdiagnostic
  obtain ⟨finding, hfinding, hproblem⟩ := List.mem_filterMap.mp hdiagnostic
  simp only [defaultFindings, List.mem_append, List.mem_map,
    List.mem_singleton] at hfinding
  rcases hfinding with (⟨name, _, rfl⟩ | rfl) | ⟨reported, hreported, rfl⟩
  · exact absurd hproblem (by simp [Finding.problem?])
  · exact absurd hproblem (by simp [Finding.problem?])
  · obtain rfl := Option.some.inj hproblem
    exact Defaults.diagnostics_read source owner initializer reported hreported

theorem memberFindings_reportDefaults (source owner : String)
    (member : ClassMember) :
    ReportDefaults (memberFindings source owner member) := by
  unfold memberFindings
  split
  · split
    · split
      · exact defaultFindings_reportDefaults source owner _
      · intro diagnostic hdiagnostic
        rw [List.mem_singleton.mp hdiagnostic]
        trivial
    · exact reportDefaults_of_none rfl
  · exact reportDefaults_of_none rfl

variable (it : Extraction)

theorem ofClass_reportDefaults (anchor : Nat) (value : ClassNode) :
    ReportDefaults (it.ofClass anchor value) := by
  unfold ofClass
  split
  · exact reportDefaults_of_none rfl
  · refine (ReportDefaults.append (reportDefaults_of_none rfl) ?_).append
      (reportDefaults_of_none rfl)
    exact reportDefaults_flatMap (memberFindings_reportDefaults _ _)

theorem ofExpression_reportDefaults (value : Expr) :
    ReportDefaults (it.ofExpression value) := by
  unfold ofExpression
  split
  · exact defaultFindings_reportDefaults _ _ _
  · exact reportDefaults_of_none rfl

mutual

theorem ofDecl_reportDefaults (scope : Scope) (anchor : Nat) (value : Decl) :
    ReportDefaults (it.ofDecl scope anchor value) := by
  cases value with
  | classDecl value =>
      rw [ofDecl]
      exact it.ofClass_reportDefaults anchor value
  | functionDecl span value =>
      rw [ofDecl]
      exact reportDefaults_of_none
        (it.ofFunction_apart Finding.problem?_apartFromComponents anchor span value)
  | variableDecl span bindings =>
      rw [ofDecl]
      exact reportDefaults_flatMap fun binding => reportDefaults_of_none
        (it.ofDeclarator_apart Finding.problem?_apartFromComponents anchor
          span.start binding)
  | interfaceDecl span name generics bases members =>
      rw [ofDecl]
      split
      · exact reportDefaults_of_none
          (it.shapeFindings_apart Finding.problem?_apartFromShapes name _)
      · exact reportDefaults_of_none rfl
  | aliasDecl span name generics type =>
      unfold ofDecl
      split
      · split
        · exact reportDefaults_of_none
            (it.shapeFindings_apart Finding.problem?_apartFromShapes name _)
        · exact reportDefaults_of_none rfl
      · exact reportDefaults_of_none rfl
  | namespaceDecl span statements =>
      rw [ofDecl]
      exact ofStatements_reportDefaults .inNamespace statements
  | other span parts =>
      rw [ofDecl]
      exact reportDefaults_of_none rfl

theorem ofStatement_reportDefaults (scope : Scope) (statement : Stmt) :
    ReportDefaults (it.ofStatement scope statement) := by
  cases statement with
  | declaration value =>
      rw [ofStatement]
      split
      · exact ofDecl_reportDefaults scope value.span.start value
      · exact reportDefaults_of_none rfl
  | exported span value =>
      cases value with
      | none =>
          rw [ofStatement]
          exact reportDefaults_of_none rfl
      | some value =>
          rw [ofStatement]
          exact ofDecl_reportDefaults scope span.start value
  | exportedDefault span value =>
      rw [ofStatement]
      exact ofDecl_reportDefaults scope span.start value
  | expression span value =>
      rw [ofStatement]
      split
      · exact it.ofExpression_reportDefaults value
      · exact reportDefaults_of_none rfl
  | other span parts =>
      rw [ofStatement]
      exact reportDefaults_of_none rfl

theorem ofStatements_reportDefaults (scope : Scope) (statements : List Stmt) :
    ReportDefaults (it.ofStatements scope statements) := by
  cases statements with
  | nil =>
      rw [ofStatements]
      exact reportDefaults_of_none rfl
  | cons statement statements =>
      rw [ofStatements]
      exact (ofStatement_reportDefaults scope statement).append
        (ofStatements_reportDefaults scope statements)

end

end Extraction

/-- Extraction reports nothing but default values that could not be read. -/
theorem rawDocument_diagnostics_aboutDefaults (file : File) (options : Options) :
    ∀ diagnostic ∈ (file.rawDocument options).diagnostics,
      diagnostic.AboutDefaults := by
  rw [File.rawDocument, RawDocument.diagnostics_ofFindings]
  exact Extraction.ofStatements_reportDefaults _ .file file.statements

/-! ### The first component -/

/-- The base of a declaration makes it a component. -/
def Component.Marked (options : Options) (component : Component) : Prop :=
  ∃ base, component.base = some base ∧ base ∈ options.componentMarkers

/-- A component is the first one among declarations. -/
def FirstComponent (options : Options) (declarations : List Component)
    (component : Component) : Prop :=
  component.Marked options ∧ ∃ before after,
    declarations = before ++ component :: after ∧
    ∀ earlier ∈ before, ¬ earlier.Marked options

theorem Options.accepts_iff (options : Options) (component : Component) :
    options.accepts component = true ↔ component.Marked options := by
  cases hbase : component.base <;>
    simp [Options.accepts, Component.Marked, Options.isComponentMarker, hbase]

section Selection

variable {options : Options} {component : Component}

theorem selected?_eq_some_iff (document : RawDocument) :
    document.selected? options = some component ↔
      FirstComponent options document.components component := by
  simp only [RawDocument.selected?, List.find?_eq_some_iff_append,
    Options.accepts_iff, FirstComponent, Bool.not_eq_eq_eq_not, Bool.not_true,
    ← Bool.not_eq_true]

theorem selected?_eq_none_iff (document : RawDocument) :
    document.selected? options = none ↔
      ∀ declaration ∈ document.components, ¬ declaration.Marked options := by
  simp only [RawDocument.selected?, List.find?_eq_none, Options.accepts_iff]

end Selection

/-! ### The ways in which assembly ends -/

/-- A component names no shape, or one that the file does not declare. -/
def Component.Unresolved (component : Component) (file : File) : Prop :=
  ∀ name, component.props = some name → ¬ file.DeclaresShape name

/--
How assembly ends for a file: the documentation, and the diagnostics that are
added. There is no component; or the first one has no declared shape; or it is
documented by the members of its shape.
-/
inductive Outcome (file : File) (options : Options) :
    Documentation → List Diagnostic → Prop where
  | nothing
      (hnone : ∀ declaration ∈ (file.rawDocument options).components,
        ¬ declaration.Marked options) :
      Outcome file options
        (match options.outputVariant with
          | .named => .absent
          | .classic => .empty)
        [.noComponentFound]
  | unresolved {component : Component}
      (hfirst : FirstComponent options (file.rawDocument options).components
        component)
      (hunresolved : component.Unresolved file) :
      Outcome file options
        (match options.outputVariant with
          | .named => .document ⟨some component.name, component.comment, .empty⟩
          | .classic => .empty)
        [.unresolvedPropShape component.name component.props]
  | documented {component : Component} {name : String} {shape : PropShape}
      (hfirst : FirstComponent options (file.rawDocument options).components
        component)
      (hprops : component.props = some name)
      (hdeclared : file.DeclaresShape name)
      (hshape : (file.rawDocument options).shape? name = some shape) :
      Outcome file options
        (.document ⟨match options.outputVariant with
            | .named => some component.name
            | .classic => none,
          component.comment,
          shape.props options (file.rawDocument options).defaults⟩)
        []

section Files

variable {file : File} {options : Options}

/-- The document has a shape of a name exactly if the file declares one. -/
theorem rawDocument_shape?_isSome_iff (options : Options)
    (hgrammar : ∀ statement ∈ file.statements, statement.ExportsByGrammar)
    {name : String} :
    ((file.rawDocument options).shape? name).isSome ↔
      file.DeclaresShape name := by
  rw [declaresShape_iff hgrammar, filterMap_shapeName?]
  cases hlast : lastShape? file.statements name with
  | none =>
      rw [rawDocument_shape?_eq_none options hlast]
      simpa using lastShape?_eq_none_iff.mp hlast
  | some source =>
      obtain ⟨comment, hshape⟩ := rawDocument_shape?_eq_some options hlast
      have hne : lastShape? file.statements name ≠ none := by simp [hlast]
      simpa [hshape] using mt lastShape?_eq_none_iff.mpr hne

/-- Assembly ends in one of the three ways. -/
theorem assemble_outcome (options : Options)
    (hgrammar : ∀ statement ∈ file.statements, statement.ExportsByGrammar) :
    ∃ documentation added,
      (file.rawDocument options).assemble options =
        ⟨documentation, (file.rawDocument options).diagnostics ++ added⟩ ∧
      Outcome file options documentation added := by
  unfold RawDocument.assemble
  split
  · rename_i hnone
    refine ⟨_, _, ?_, .nothing ((selected?_eq_none_iff _).mp hnone)⟩
    cases options.outputVariant <;> rfl
  · rename_i component hselected
    have hfirst := (selected?_eq_some_iff _).mp hselected
    split
    · rename_i shape hshape
      obtain ⟨name, hprops, hfound⟩ := Option.bind_eq_some_iff.mp hshape
      have hdeclared : file.DeclaresShape name := by
        rw [← rawDocument_shape?_isSome_iff options hgrammar, hfound]
        rfl
      refine ⟨_, [], ?_, .documented hfirst hprops hdeclared hfound⟩
      rw [List.append_nil]
      rfl
    · rename_i hmissing
      have hunresolved : component.Unresolved file := by
        intro name hprops hdeclared
        obtain ⟨shape, hshape⟩ := Option.isSome_iff_exists.mp
          ((rawDocument_shape?_isSome_iff options hgrammar).mpr hdeclared)
        simp [hprops, hshape] at hmissing
      refine ⟨_, _, ?_, .unresolved hfirst hunresolved⟩
      cases hvariant : options.outputVariant <;>
        simp [Component.document, hvariant]

/-- There is only one first component. -/
theorem FirstComponent.unique {declarations : List Component}
    {component other : Component}
    (hfirst : FirstComponent options declarations component)
    (hother : FirstComponent options declarations other) : other = component := by
  have hselected := (selected?_eq_some_iff ⟨declarations, [], .empty, []⟩).mpr hfirst
  have hselectedOther :=
    (selected?_eq_some_iff ⟨declarations, [], .empty, []⟩).mpr hother
  exact Option.some.inj (hselectedOther.symm.trans hselected)

theorem FirstComponent.exists_marked {declarations : List Component}
    {component : Component}
    (hfirst : FirstComponent options declarations component) :
    ¬ ∀ declaration ∈ declarations, ¬ declaration.Marked options := by
  obtain ⟨hmarked, before, after, rfl, _⟩ := hfirst
  intro hnone
  exact hnone component (by simp) hmarked

variable {documentation : Documentation} {added : List Diagnostic}

theorem Outcome.length_le_one (houtcome : Outcome file options documentation added) :
    added.length ≤ 1 := by
  cases houtcome <;> simp

theorem Outcome.added_eq_noComponentFound_iff
    (houtcome : Outcome file options documentation added) :
    added = [.noComponentFound] ↔
      ∀ declaration ∈ (file.rawDocument options).components,
        ¬ declaration.Marked options := by
  cases houtcome with
  | nothing hnone => exact iff_of_true rfl hnone
  | unresolved hfirst _ => exact iff_of_false (by simp) hfirst.exists_marked
  | documented hfirst _ _ _ => exact iff_of_false (by simp) hfirst.exists_marked

theorem Outcome.added_eq_unresolvedPropShape_iff
    (houtcome : Outcome file options documentation added) (name : String)
    (expected : Option String) :
    added = [.unresolvedPropShape name expected] ↔
      ∃ component,
        FirstComponent options (file.rawDocument options).components component ∧
        component.Unresolved file ∧ component.name = name ∧
        component.props = expected := by
  cases houtcome with
  | nothing hnone =>
      refine iff_of_false (by simp) ?_
      rintro ⟨component, hfirst, -⟩
      exact hfirst.exists_marked hnone
  | @unresolved component hfirst hunresolved =>
      constructor
      · intro hadded
        simp only [List.cons.injEq, Diagnostic.unresolvedPropShape.injEq,
          and_true] at hadded
        exact ⟨component, hfirst, hunresolved, hadded⟩
      · rintro ⟨other, hother, _, rfl, rfl⟩
        rw [hfirst.unique hother]
  | documented hfirst hprops hdeclared _ =>
      refine iff_of_false (by simp) ?_
      rintro ⟨other, hother, hunresolved, -⟩
      rw [hfirst.unique hother] at hunresolved
      exact hunresolved _ hprops hdeclared

theorem Outcome.added_eq_nil_iff
    (houtcome : Outcome file options documentation added) :
    added = [] ↔
      ∃ component name shape,
        FirstComponent options (file.rawDocument options).components component ∧
        component.props = some name ∧ file.DeclaresShape name ∧
        (file.rawDocument options).shape? name = some shape ∧
        documentation = .document ⟨match options.outputVariant with
            | .named => some component.name
            | .classic => none,
          component.comment,
          shape.props options (file.rawDocument options).defaults⟩ := by
  cases houtcome with
  | nothing hnone =>
      refine iff_of_false (by simp) ?_
      rintro ⟨component, name, shape, hfirst, -⟩
      exact hfirst.exists_marked hnone
  | unresolved hfirst hunresolved =>
      refine iff_of_false (by simp) ?_
      rintro ⟨other, name, shape, hother, hprops, hdeclared, -⟩
      rw [hfirst.unique hother] at hprops
      exact hunresolved name hprops hdeclared
  | @documented component name shape hfirst hprops hdeclared hshape =>
      exact iff_of_true rfl
        ⟨component, name, shape, hfirst, hprops, hdeclared, hshape, rfl⟩

/-- Without a component the documentation is as empty as the variant allows. -/
theorem Outcome.documentation_of_noComponentFound
    (houtcome : Outcome file options documentation [.noComponentFound]) :
    documentation = match options.outputVariant with
      | .named => .absent
      | .classic => .empty := by
  cases houtcome
  rfl

/-- A component without a declared shape has no props, or no documentation. -/
theorem Outcome.documentation_of_unresolved
    (houtcome : Outcome file options documentation added) {component : Component}
    (hfirst : FirstComponent options (file.rawDocument options).components
      component)
    (hunresolved : component.Unresolved file) :
    documentation = match options.outputVariant with
      | .named => .document ⟨some component.name, component.comment, .empty⟩
      | .classic => .empty := by
  cases houtcome with
  | nothing hnone => exact absurd hnone hfirst.exists_marked
  | unresolved hother _ => rw [hfirst.unique hother]
  | documented hother hprops hdeclared _ =>
      rw [hfirst.unique hother] at hprops
      exact absurd hdeclared (hunresolved _ hprops)

/-- The two diagnostics of assembly exclude each other, also in the whole list. -/
theorem Outcome.not_both (houtcome : Outcome file options documentation added) :
    ¬ (.noComponentFound ∈ (file.rawDocument options).diagnostics ++ added ∧
      ∃ name expected, .unresolvedPropShape name expected ∈
        (file.rawDocument options).diagnostics ++ added) := by
  have habout := rawDocument_diagnostics_aboutDefaults file options
  rintro ⟨hnone, name, expected, hunresolved⟩
  -- Neither can come from extraction, and assembly adds only one.
  rcases List.mem_append.mp hnone with hold | hadded
  · exact habout _ hold
  · rcases List.mem_append.mp hunresolved with hold | haddedToo
    · exact habout _ hold
    · cases houtcome with
      | nothing => simp at haddedToo
      | unresolved => simp at hadded
      | documented => simp at hadded

end Files

/--
Outcome and diagnostics correspond. A source text that can be read always gives
documentation. Its diagnostics are those of extraction, in the order in which
they are found, and at most one more: that there is no component, exactly if no
declaration is marked as one; that its shape is not resolved, exactly if the
first component names none that is declared at the top; and none exactly if the
documentation is built from the first component and its declared shape. Later
components play no part in this.
-/
theorem diagnostics_tell_the_outcome {path text : String} {file : File}
    (hparse : File.parse? path text = some file) (options : Options) :
    let raw := file.rawDocument options
    ∃ documentation added,
      extract options path text = .ok raw ∧
      generate options path text =
        .ok ⟨documentation, raw.diagnostics ++ added⟩ ∧
      raw.diagnostics = (file.findings options).filterMap Finding.problem? ∧
      added.length ≤ 1 ∧
      (added = [.noComponentFound] ↔
        ∀ declaration ∈ raw.components, ¬ declaration.Marked options) ∧
      (added = [.noComponentFound] →
        documentation = match options.outputVariant with
          | .named => .absent
          | .classic => .empty) ∧
      (∀ name expected, added = [.unresolvedPropShape name expected] ↔
        ∃ component, FirstComponent options raw.components component ∧
          component.Unresolved file ∧ component.name = name ∧
          component.props = expected) ∧
      (∀ component, FirstComponent options raw.components component →
        component.Unresolved file →
          documentation = match options.outputVariant with
            | .named => .document ⟨some component.name, component.comment, .empty⟩
            | .classic => .empty) ∧
      (added = [] ↔ ∃ component name shape,
        FirstComponent options raw.components component ∧
        component.props = some name ∧ file.DeclaresShape name ∧
        raw.shape? name = some shape ∧
        documentation = .document ⟨match options.outputVariant with
            | .named => some component.name
            | .classic => none,
          component.comment, shape.props options raw.defaults⟩) ∧
      ¬ (.noComponentFound ∈ raw.diagnostics ++ added ∧
        ∃ name expected,
          .unresolvedPropShape name expected ∈ raw.diagnostics ++ added) := by
  intro raw
  obtain ⟨documentation, added, hassemble, houtcome⟩ :=
    assemble_outcome options (File.exportsByGrammar hparse)
  refine ⟨documentation, added, extract_of_parse hparse options, ?_,
    RawDocument.diagnostics_ofFindings _, houtcome.length_le_one,
    houtcome.added_eq_noComponentFound_iff, ?_,
    houtcome.added_eq_unresolvedPropShape_iff, ?_, houtcome.added_eq_nil_iff,
    houtcome.not_both⟩
  · rw [generate_of_parse hparse, hassemble]
  · rintro rfl
    exact houtcome.documentation_of_noComponentFound
  · intro component hfirst hunresolved
    exact houtcome.documentation_of_unresolved hfirst hunresolved

/--
A helper, a component whose shape is not declared at the top, defaults that
cannot be read, and a later component with a declared shape.
-/
def unresolvedFirst : String :=
  "class H extends Base<P>\x7b\x7d\n" ++
  "/** W */class W extends Component<Q>\x7bstatic defaultProps=d\x7d\n" ++
  "namespace N\x7bexport interface Q\x7ba:1\x7d\x7d\n" ++
  "class V extends Component<P>\x7b\x7d\ninterface P\x7bb:2\x7d"

theorem diagnostics_of_unresolvedFirst :
    ∃ file, File.parse? "W.tsx" unresolvedFirst = some file ∧
      generate .default "W.tsx" unresolvedFirst =
        .ok ⟨.document ⟨some "W", "W", .empty⟩,
          [.malformedDefaults "W" none "initializer is not an object literal",
            .unresolvedPropShape "W" (some "Q")]⟩ ∧
      ∃ component,
        FirstComponent .default (file.rawDocument .default).components component ∧
        component.Unresolved file ∧ component.name = "W" ∧
        component.props = some "Q" := by
  have hparsed : (File.parse? "W.tsx" unresolvedFirst).map (fun file =>
      ((file.rawDocument .default).diagnostics,
        (file.rawDocument .default).assemble .default)) =
      some ([.malformedDefaults "W" none "initializer is not an object literal"],
        ⟨.document ⟨some "W", "W", .empty⟩,
          [.malformedDefaults "W" none "initializer is not an object literal",
            .unresolvedPropShape "W" (some "Q")]⟩) := by
    decide +kernel
  obtain ⟨file, hparse, hfacts⟩ := Option.map_eq_some_iff.mp hparsed
  obtain ⟨hreported, hassembly⟩ := Prod.mk.inj hfacts
  have hgenerate := generate_of_parse hparse .default
  rw [hassembly] at hgenerate
  obtain ⟨documentation, added, _, htold, _, _, _, _, hunresolved, _⟩ :=
    diagnostics_tell_the_outcome hparse .default
  rw [hgenerate, Except.ok.injEq, Assembly.mk.injEq, hreported] at htold
  refine ⟨file, hparse, hgenerate, (hunresolved "W" (some "Q")).mp ?_⟩
  simpa using htold.2.symm

end ComponentDocs
