import ComponentDocs.Proofs.Composition
import Mathlib.Data.List.Forall2

/-!
What the heritage mode has a say in.

Shapes, default values and diagnostics are the same under all options: extraction
reads the mode and the markers for components only. The components of two runs
are compared visit by visit, since the visits do not depend on options either.
-/

namespace ComponentDocs

open Source

/-! ### What no option has a say in -/

section AllOptions

variable {α : Type} {part : Finding → Option α}

/-- Components and the notes about them apart, a visit finds the same. -/
theorem Extraction.ofVisit_filterMap_of_options
    (hpart : Finding.ApartFromComponents part) (file : File) (table : ShapeTable)
    (first second : Options) (visit : Visit) :
    (ofVisit ⟨file, first, table⟩ visit).filterMap part =
      (ofVisit ⟨file, second, table⟩ visit).filterMap part := by
  cases visit with
  | classNode anchor value =>
      simp only [ofVisit, ofClass]
      split
      · rfl
      · simp [List.filterMap_append, hpart.1, hpart.2]
  | function anchor span value => rfl
  | bindings anchor span values =>
      simp only [ofVisit, List.filterMap_flatMap,
        ofDeclarator_apart _ hpart]
  | expression value => rfl

theorem findings_filterMap_of_options
    (hcomponents : Finding.ApartFromComponents part)
    (hshapes : Finding.ApartFromShapes part) (file : File)
    (first second : Options) :
    (file.findings first).filterMap part =
      (file.findings second).filterMap part := by
  obtain ⟨text, statements, docs⟩ := file
  rw [findings_filterMap hshapes, findings_filterMap hshapes,
    List.filterMap_flatMap, List.filterMap_flatMap]
  congr 1
  funext visit
  exact Extraction.ofVisit_filterMap_of_options hcomponents _ _ first second visit

end AllOptions

theorem shapes_of_options (file : File) (first second : Options) :
    (file.rawDocument first).shapes = (file.rawDocument second).shapes := by
  obtain ⟨text, statements, docs⟩ := file
  rw [shapes_eq_shown, shapes_eq_shown]
  rfl

theorem defaults_of_options (file : File) (first second : Options) :
    (file.rawDocument first).defaults = (file.rawDocument second).defaults := by
  rw [File.rawDocument, File.rawDocument, RawDocument.defaults_ofFindings,
    RawDocument.defaults_ofFindings, findings_filterMap_of_options
      Finding.defaults?_apartFromComponents Finding.defaults?_apartFromShapes
      file first second]

theorem diagnostics_of_options (file : File) (first second : Options) :
    (file.rawDocument first).diagnostics =
      (file.rawDocument second).diagnostics := by
  rw [File.rawDocument, File.rawDocument, RawDocument.diagnostics_ofFindings,
    RawDocument.diagnostics_ofFindings, findings_filterMap_of_options
      Finding.problem?_apartFromComponents Finding.problem?_apartFromShapes
      file first second]

/-- The components of a file, visit by visit. -/
theorem components_eq_flatMap (file : File) (options : Options) :
    (file.rawDocument options).components =
      (visitsOf .file file.statements).flatMap fun visit =>
        (Extraction.ofVisit ⟨⟨file.text, [], file.docs⟩, options, .empty⟩
          visit).filterMap Finding.component? := by
  obtain ⟨text, statements, docs⟩ := file
  rw [File.rawDocument, RawDocument.components_ofFindings,
    findings_filterMap Finding.component?_apartFromShapes,
    List.filterMap_flatMap]

/-! ### The heritage mode -/

/-- The class of a visit, if it has a name. -/
def Visit.namedClass? : Visit → Option ClassNode
  | .classNode _ value => if value.name.isSome then some value else none
  | _ => none

theorem Visit.namedClass?_eq_some {visit : Visit} {value : ClassNode}
    (hclass : visit.namedClass? = some value) :
    ∃ anchor name, visit = .classNode anchor value ∧ value.name = some name := by
  cases visit with
  | classNode anchor other =>
      cases hname : other.name with
      | none => simp [namedClass?, hname] at hclass
      | some name =>
          have hsame : other = value := by simpa [namedClass?, hname] using hclass
          exact ⟨anchor, name, by rw [hsame], hsame ▸ hname⟩
  | function anchor span value => simp [namedClass?] at hclass
  | bindings anchor span values => simp [namedClass?] at hclass
  | expression value => simp [namedClass?] at hclass

/-- The classes with a name that the walk comes upon, in its order. -/
def Source.File.namedClasses (file : File) : List ClassNode :=
  (visitsOf .file file.statements).filterMap Visit.namedClass?

/--
What one declaration gives with its names as they are written, and what it gives
by convention.
-/
inductive ModePair : Component → Component → Prop where
  | function {entry : Component} (hkind : entry.kind = .functional) :
      ModePair entry entry
  | underived (name comment : String) :
      ModePair ⟨name, .classBased, none, none, comment⟩
        ⟨name, .classBased, none, none, comment⟩
  | derived (name comment base : String) (props : Option String) :
      ModePair ⟨name, .classBased, some base, props, comment⟩
        ⟨name, .classBased, some "Component", some "Props", comment⟩

/-- The entry of a class has the first two names of its heritage. -/
def NamesHeritage (markers : List String) (value : ClassNode)
    (entry : Component) : Prop :=
  value.name = some entry.name ∧
    entry.base = (Heritage.namesOfClass markers value)[0]? ∧
    entry.props = (Heritage.namesOfClass markers value)[1]?

/-- All components among findings are functions. -/
def ShowFunctions (findings : List Finding) : Prop :=
  ∀ entry ∈ findings.filterMap Finding.component?, entry.kind = .functional

namespace Extraction

variable (it : Extraction)

theorem functionComponent_showFunctions (name : String) (heritage : Heritage)
    (anchors : List Nat) :
    ShowFunctions [it.functionComponent name heritage anchors] := by
  intro entry hentry
  rw [List.mem_singleton.mp hentry]

theorem ofFunction_showFunctions (anchor : Nat) (span : Span)
    (value : Function) : ShowFunctions (it.ofFunction anchor span value) := by
  unfold ofFunction
  split
  · exact it.functionComponent_showFunctions _ _ _
  · intro entry hentry
    exact absurd hentry List.not_mem_nil

theorem ofDeclarator_showFunctions (anchor start : Nat) (binding : Declarator) :
    ShowFunctions (it.ofDeclarator anchor start binding) := by
  unfold ofDeclarator
  split
  · split
    · exact it.functionComponent_showFunctions _ _ _
    · split
      · split
        · exact it.functionComponent_showFunctions _ _ _
        · intro entry hentry
          exact absurd hentry List.not_mem_nil
      · intro entry hentry
        exact absurd hentry List.not_mem_nil
  · intro entry hentry
    exact absurd hentry List.not_mem_nil

theorem ofExpression_components (value : Expr) :
    (it.ofExpression value).filterMap Finding.component? = [] := by
  rw [ofExpression_eq]
  cases value.assignedDefaults? with
  | none => rfl
  | some assigned =>
      rw [List.filterMap_eq_nil_iff]
      intro finding hfinding
      exact (of_mem_defaultFindings hfinding).1

/-- A visit to anything but a class with a name shows functions at most. -/
theorem ofVisit_showFunctions {visit : Visit} (hclass : visit.namedClass? = none) :
    ShowFunctions (it.ofVisit visit) := by
  cases visit with
  | classNode anchor value =>
      have hname : value.name = none := by
        simpa [Visit.namedClass?] using hclass
      intro entry hentry
      simp [ofVisit, ofClass, hname, Finding.component?] at hentry
  | function anchor span value => exact it.ofFunction_showFunctions anchor span value
  | bindings anchor span values =>
      intro entry hentry
      rw [ofVisit, List.filterMap_flatMap] at hentry
      obtain ⟨binding, _, hmem⟩ := List.mem_flatMap.mp hentry
      exact it.ofDeclarator_showFunctions anchor span.start binding entry hmem
  | expression value =>
      intro entry hentry
      rw [ofVisit, ofExpression_components] at hentry
      exact absurd hentry List.not_mem_nil

variable (file : File) (table : ShapeTable) (options : Options)

/-- Where there is no class with a name, a visit does not see the mode. -/
theorem ofVisit_of_mode (mode : HeritageMode) {visit : Visit}
    (hclass : visit.namedClass? = none) :
    ofVisit ⟨file, { options with heritageMode := mode }, table⟩ visit =
      ofVisit ⟨file, options, table⟩ visit := by
  cases visit with
  | classNode anchor value =>
      have hname : value.name = none := by
        simpa [Visit.namedClass?] using hclass
      simp [ofVisit, ofClass, hname]
  | function anchor span value => rfl
  | bindings anchor span values => rfl
  | expression value => rfl

/-- What a visit shows in the two modes. -/
theorem ofVisit_modePair (visit : Visit) :
    List.Forall₂ ModePair
      ((ofVisit ⟨file, { options with heritageMode := .resolved }, table⟩
        visit).filterMap Finding.component?)
      ((ofVisit ⟨file, { options with heritageMode := .convention }, table⟩
        visit).filterMap Finding.component?) := by
  cases hclass : visit.namedClass? with
  | none =>
      rw [ofVisit_of_mode file table options .resolved hclass,
        ofVisit_of_mode file table options .convention hclass, List.forall₂_same]
      intro entry hentry
      exact .function (ofVisit_showFunctions _ hclass entry hentry)
  | some value =>
      obtain ⟨anchor, name, rfl, hname⟩ := Visit.namedClass?_eq_some hclass
      simp only [ofVisit]
      rw [ofClass_components _ hname, ofClass_components _ hname]
      refine .cons ?_ .nil
      -- both modes leave a class alone exactly if its clause mentions no name
      simp only [Options.classHeritage]
      cases Heritage.namesOfClass options.namespaceMarkers value with
      | nil => exact .underived name _
      | cons base names => exact .derived name _ base _

/-- The class entry of a visit, with its names as they are written. -/
theorem ofVisit_namesHeritage (visit : Visit) :
    List.Forall₂ (NamesHeritage options.namespaceMarkers)
      visit.namedClass?.toList
      (((ofVisit ⟨file, { options with heritageMode := .resolved }, table⟩
        visit).filterMap Finding.component?).filter
          fun entry => entry.kind = .classBased) := by
  cases hclass : visit.namedClass? with
  | none =>
      have hnone : ((ofVisit ⟨file, { options with heritageMode := .resolved },
          table⟩ visit).filterMap Finding.component?).filter
            (fun entry => entry.kind = .classBased) = [] := by
        rw [List.filter_eq_nil_iff]
        intro entry hentry
        simp [ofVisit_showFunctions _ hclass entry hentry]
      rw [hnone]
      exact .nil
  | some value =>
      obtain ⟨anchor, name, rfl, hname⟩ := Visit.namedClass?_eq_some hclass
      simp only [ofVisit]
      rw [ofClass_components _ hname]
      exact .cons ⟨hname, rfl, rfl⟩ .nil

end Extraction

theorem components_modePair (file : File) (options : Options) :
    List.Forall₂ ModePair
      (file.rawDocument { options with heritageMode := .resolved }).components
      (file.rawDocument { options with heritageMode := .convention }).components := by
  rw [components_eq_flatMap, components_eq_flatMap]
  refine List.rel_flatMap (List.forall₂_same.mpr fun visit _ => rfl) ?_
  rintro visit _ rfl
  exact Extraction.ofVisit_modePair _ _ options visit

theorem components_namesHeritage (file : File) (options : Options) :
    List.Forall₂ (NamesHeritage options.namespaceMarkers) file.namedClasses
      ((file.rawDocument
        { options with heritageMode := .resolved }).components.filter
          fun entry => entry.kind = .classBased) := by
  rw [components_eq_flatMap, List.filter_flatMap, File.namedClasses,
    List.filterMap_eq_flatMap_toList]
  refine List.rel_flatMap (List.forall₂_same.mpr fun visit _ => rfl) ?_
  rintro visit _ rfl
  exact Extraction.ofVisit_namesHeritage _ _ options visit

/--
The heritage mode touches derived classes only. Of a source text that can be
read, the shapes, the default values and the diagnostics are the same in both
modes, and the components are as many and agree one by one in name, kind and
comment. Functions are the same altogether. A class without a base in one mode
has none in the other and names no props; any other class is a `Component` with
`Props` by convention. With names as they are written, the class entries belong
to the classes of the walk that have a name, in their order, and each has the
first two names of its clause.
-/
theorem heritage_mode_touches_derived_classes {path text : String} {file : File}
    (hparse : File.parse? path text = some file) (options : Options) :
    ∃ resolved convention,
      extract { options with heritageMode := .resolved } path text =
        .ok resolved ∧
      extract { options with heritageMode := .convention } path text =
        .ok convention ∧
      resolved.shapes = convention.shapes ∧
      resolved.defaults = convention.defaults ∧
      resolved.diagnostics = convention.diagnostics ∧
      List.Forall₂
        (fun written usual =>
          (written.name = usual.name ∧ written.kind = usual.kind ∧
            written.comment = usual.comment) ∧
          (written.kind = .functional → written = usual) ∧
          (written.kind = .classBased →
            (written.base = none ↔ usual.base = none) ∧
            (written.base = none → written.props = none ∧ usual.props = none) ∧
            (written.base ≠ none →
              usual.base = some "Component" ∧ usual.props = some "Props")))
        resolved.components convention.components ∧
      List.Forall₂
        (fun value entry => value.name = some entry.name ∧
          entry.base = (Heritage.namesOfClass options.namespaceMarkers value)[0]? ∧
          entry.props = (Heritage.namesOfClass options.namespaceMarkers value)[1]?)
        file.namedClasses
        (resolved.components.filter fun entry => entry.kind = .classBased) := by
  refine ⟨_, _, extract_of_parse hparse _, extract_of_parse hparse _,
    shapes_of_options file _ _, defaults_of_options file _ _,
    diagnostics_of_options file _ _, ?_, components_namesHeritage file options⟩
  refine (components_modePair file options).imp ?_
  rintro written usual hpair
  cases hpair with
  | function hkind => simp [hkind]
  | underived name comment => simp
  | derived name comment base props => simp

/--
Classes with and without a base, with one that mentions no name, and in a
namespace; a variable with an annotation and a function.
-/
def derivedAndOthers : String :=
  "class A extends Preact.Base<P>\x7b\x7d\nclass B\x7b\x7d\n" ++
  "class C extends (class\x7b\x7d)\x7b\x7d\n" ++
  "const V: FC<Q> = f\nfunction F(p: R)\x7b\x7d\n" ++
  "namespace N\x7bexport class D extends E\x7b\x7d\x7d"

theorem heritage_modes_of_derivedAndOthers :
    ∃ file resolved convention,
      File.parse? "W.tsx" derivedAndOthers = some file ∧
      extract { Options.default with heritageMode := .resolved } "W.tsx"
        derivedAndOthers = .ok resolved ∧
      extract { Options.default with heritageMode := .convention } "W.tsx"
        derivedAndOthers = .ok convention ∧
      resolved.components =
        [⟨"A", .classBased, some "Preact.Base", some "P", ""⟩,
          ⟨"B", .classBased, none, none, ""⟩, ⟨"C", .classBased, none, none, ""⟩,
          ⟨"V", .functional, some "FC", some "Q", ""⟩,
          ⟨"F", .functional, some "StatelessComponent", some "R", ""⟩,
          ⟨"D", .classBased, some "E", none, ""⟩] ∧
      convention.components.map Component.base =
        [some "Component", none, none, some "FC", some "StatelessComponent",
          some "Component"] ∧
      file.namedClasses.length = 4 := by
  have hparsed : (File.parse? "W.tsx" derivedAndOthers).map (fun file =>
      ((file.rawDocument { Options.default with
          heritageMode := .resolved }).components,
        (file.rawDocument { Options.default with
          heritageMode := .convention }).components.map Component.base)) =
      some ([⟨"A", .classBased, some "Preact.Base", some "P", ""⟩,
          ⟨"B", .classBased, none, none, ""⟩, ⟨"C", .classBased, none, none, ""⟩,
          ⟨"V", .functional, some "FC", some "Q", ""⟩,
          ⟨"F", .functional, some "StatelessComponent", some "R", ""⟩,
          ⟨"D", .classBased, some "E", none, ""⟩],
        [some "Component", none, none, some "FC", some "StatelessComponent",
          some "Component"]) := by
    decide +kernel
  obtain ⟨file, hparse, hfacts⟩ := Option.map_eq_some_iff.mp hparsed
  obtain ⟨hwritten, husual⟩ := Prod.mk.inj hfacts
  obtain ⟨resolved, convention, hresolved, hconvention, _, _, _, _, hclasses⟩ :=
    heritage_mode_touches_derived_classes hparse .default
  have hfirst := hresolved.symm.trans (extract_of_parse hparse _)
  have hsecond := hconvention.symm.trans (extract_of_parse hparse _)
  rw [Except.ok.injEq] at hfirst hsecond
  rw [← hfirst] at hwritten
  rw [← hsecond] at husual
  refine ⟨file, resolved, convention, hparse, hresolved, hconvention, hwritten,
    husual, ?_⟩
  rw [hclasses.length_eq, hwritten]
  rfl

end ComponentDocs
