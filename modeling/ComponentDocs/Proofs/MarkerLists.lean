import ComponentDocs.Proofs.OutputOptions

/-!
Marker lists count as sets.

Markers are given as lists, and a name is looked for from the front. A marker
that is found equals the name that it is looked for with, so which one is found
first cannot be seen: a heritage clause is read by what is a marker and what is
not. The two marker lists are read at three places, for the names of a clause,
for the annotation of a variable and for the component that is documented, and
at each of them lists with the same elements give the same answer.
-/

namespace ComponentDocs

open Source

/-- Options that differ at most in the order and the repetition of their markers. -/
structure Options.SameMarkers (first second : Options) : Prop where
  mode : first.heritageMode = second.heritageMode
  variant : first.outputVariant = second.outputVariant
  valueSets : first.includeValueSets = second.includeValueSets
  namespaces : ∀ marker,
    marker ∈ first.namespaceMarkers ↔ marker ∈ second.namespaceMarkers
  components : ∀ marker,
    marker ∈ first.componentMarkers ↔ marker ∈ second.componentMarkers

/-! ### What is read of the markers -/

namespace Heritage

/-- Joins the first marker of the list that stands at the front with the next name. -/
def joinFirstMarker (markers : List String) : List String → List String
  | first :: second :: rest =>
      match markers.find? (fun marker => marker = first) with
      | some marker => (marker ++ "." ++ second) :: rest
      | none => first :: second :: rest
  | names => names

/-- It makes no difference which of several markers is found first. -/
theorem joinFirstMarker_eq_normalize (markers names : List String) :
    joinFirstMarker markers names = normalize markers names := by
  match names with
  | [] => rfl
  | [name] => rfl
  | first :: second :: rest =>
      simp only [joinFirstMarker, normalize]
      cases hfound : markers.find? (fun marker => marker = first) with
      | none =>
          rw [List.find?_eq_none] at hfound
          have habsent : first ∉ markers := fun hmem => hfound first hmem (by simp)
          simp [habsent]
      | some marker =>
          have hmem := List.mem_of_find?_eq_some hfound
          have hsame : marker = first := by simpa using List.find?_some hfound
          subst hsame
          simp [hmem]

theorem normalize_of_sameElements {markers others : List String}
    (hsame : ∀ marker, marker ∈ markers ↔ marker ∈ others) :
    normalize markers = normalize others := by
  funext names
  match names with
  | [] => rfl
  | [name] => rfl
  | first :: second :: rest => simp [normalize, hsame]

end Heritage

namespace Options.SameMarkers

variable {first second : Options} (hsame : first.SameMarkers second)
include hsame

theorem isComponentMarker_eq :
    first.isComponentMarker = second.isComponentMarker := by
  funext base
  simp [isComponentMarker, hsame.components]

theorem classHeritage_eq : first.classHeritage = second.classHeritage := by
  funext names
  rw [classHeritage, classHeritage, hsame.mode]

theorem namesOfClass_eq : Heritage.namesOfClass first.namespaceMarkers =
    Heritage.namesOfClass second.namespaceMarkers := by
  funext value
  simp only [Heritage.namesOfClass,
    Heritage.normalize_of_sameElements hsame.namespaces]

theorem componentType?_eq (file : File) (table : ShapeTable) :
    Extraction.componentType? ⟨file, first, table⟩ =
      Extraction.componentType? ⟨file, second, table⟩ := by
  funext declaredType
  simp only [Extraction.componentType?, Heritage.namesOfType,
    Heritage.normalize_of_sameElements hsame.namespaces,
    hsame.isComponentMarker_eq]

/-! ### Extraction and assembly -/

/-- A visit shows the same, the notes about it included. -/
theorem ofVisit_eq (file : File) (table : ShapeTable) :
    Extraction.ofVisit ⟨file, first, table⟩ =
      Extraction.ofVisit ⟨file, second, table⟩ := by
  funext visit
  cases visit with
  | classNode anchor value =>
      simp only [Extraction.ofVisit, Extraction.ofClass, hsame.classHeritage_eq,
        hsame.namesOfClass_eq]
  | function anchor span value => rfl
  | bindings anchor span values =>
      simp only [Extraction.ofVisit]
      congr 1
      funext binding
      simp only [Extraction.ofDeclarator, hsame.componentType?_eq]
      rfl
  | expression value => rfl

theorem rawDocument_eq (file : File) :
    file.rawDocument first = file.rawDocument second := by
  refine RawDocument.eq_of_parts ?_ (shapes_of_options file _ _)
    (defaults_of_options file _ _) (diagnostics_of_options file _ _)
  rw [components_eq_flatMap, components_eq_flatMap, hsame.ofVisit_eq]

theorem selected?_eq (raw : RawDocument) :
    raw.selected? first = raw.selected? second := by
  have haccepts : first.accepts = second.accepts := by
    funext component
    rw [accepts, accepts, hsame.isComponentMarker_eq]
  rw [RawDocument.selected?, RawDocument.selected?, haccepts]

theorem props_eq (defaults : OrderedMap String String) (shape : PropShape) :
    shape.props first defaults = shape.props second defaults := by
  simp only [PropShape.props, PropMember.document, hsame.valueSets]

theorem assemble_eq (raw : RawDocument) :
    raw.assemble first = raw.assemble second := by
  simp only [RawDocument.assemble, Component.document, hsame.selected?_eq,
    hsame.variant, hsame.props_eq]

end Options.SameMarkers

/--
Marker lists act as sets. Two options that agree in all else, and whose markers
are the same up to order and repetition, give one raw document and one assembly
for every source text that can be read. Markers may well be searched in the order
of their list: what the search finds first is what any list with the same
elements says of a clause.
-/
theorem marker_lists_act_as_sets {path text : String} {file : File}
    {first second : Options} (hparse : File.parse? path text = some file)
    (hsame : first.SameMarkers second) :
    (∃ raw assembly,
      extract first path text = .ok raw ∧ extract second path text = .ok raw ∧
      generate first path text = .ok assembly ∧
      generate second path text = .ok assembly) ∧
    ∀ names, Heritage.joinFirstMarker first.namespaceMarkers names =
      Heritage.normalize second.namespaceMarkers names := by
  refine ⟨⟨file.rawDocument first, (file.rawDocument first).assemble first,
    extract_of_parse hparse first, ?_, generate_of_parse hparse first, ?_⟩, ?_⟩
  · rw [extract_of_parse hparse, hsame.rawDocument_eq]
  · rw [generate_of_parse hparse, hsame.rawDocument_eq, hsame.assemble_eq]
  · intro names
    rw [Heritage.joinFirstMarker_eq_normalize,
      Heritage.normalize_of_sameElements hsame.namespaces]

/-- The default options with their markers in another order, one of them twice. -/
def shuffledMarkers : Options :=
  { Options.default with
    namespaceMarkers := ["Preact", "React", "Preact"]
    componentMarkers := Options.default.componentMarkers.reverse }

/-- A class whose base is named behind a namespace marker. -/
def qualifiedBase : String := "class W extends Preact.Component<P>\x7b\x7d"

theorem marker_lists_of_shuffledMarkers :
    ∃ raw assembly,
      extract .default "W.tsx" qualifiedBase = .ok raw ∧
      extract shuffledMarkers "W.tsx" qualifiedBase = .ok raw ∧
      generate shuffledMarkers "W.tsx" qualifiedBase = .ok assembly ∧
      raw.components =
        [⟨"W", .classBased, some "Preact.Component", some "P", ""⟩] ∧
      assembly.diagnostics = [.unresolvedPropShape "W" (some "P")] := by
  have hsame : Options.default.SameMarkers shuffledMarkers := by
    refine ⟨rfl, rfl, rfl, ?_, ?_⟩
    · intro marker
      simp only [shuffledMarkers, Options.default, List.mem_cons, List.not_mem_nil]
      tauto
    · intro marker
      exact List.mem_reverse.symm
  have hparsed : (File.parse? "W.tsx" qualifiedBase).map (fun file =>
      ((file.rawDocument .default).components,
        ((file.rawDocument .default).assemble .default).diagnostics)) =
      some ([⟨"W", .classBased, some "Preact.Component", some "P", ""⟩],
        [.unresolvedPropShape "W" (some "P")]) := by
    decide +kernel
  obtain ⟨file, hparse, hfacts⟩ := Option.map_eq_some_iff.mp hparsed
  obtain ⟨hcomponents, hdiagnostics⟩ := Prod.mk.inj hfacts
  obtain ⟨⟨raw, assembly, hraw, hother, hassembly, hagain⟩, _⟩ :=
    marker_lists_act_as_sets hparse hsame
  have hfirst := hraw.symm.trans (extract_of_parse hparse _)
  have hsecond := hassembly.symm.trans (generate_of_parse hparse _)
  rw [Except.ok.injEq] at hfirst hsecond
  rw [← hfirst] at hcomponents hdiagnostics
  rw [hfirst, ← hsecond] at hdiagnostics
  exact ⟨raw, assembly, hraw, hother, hagain, hcomponents, hdiagnostics⟩

end ComponentDocs
