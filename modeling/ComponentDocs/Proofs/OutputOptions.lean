import ComponentDocs.Proofs.HeritageModes
import ComponentDocs.Proofs.PlainExtension

/-!
What the output options have a say in.

Extraction does not look at them, so two runs assemble the same raw document.
Assembly settles the diagnostics without them: value sets are a matter of each
prop, and the variants differ in how they show a component that is missing or
has no declared shape.
-/

namespace ComponentDocs

open Source

/-- Options with other output options. -/
def Options.withOutput (options : Options) (variant : OutputVariant)
    (valueSets : Bool) : Options :=
  { options with outputVariant := variant, includeValueSets := valueSets }

/-- A prop whose alternatives are not listed. -/
def PropDoc.withoutValues (prop : PropDoc) : PropDoc :=
  { prop with values := none }

/-- Documentation in which no alternatives are listed. -/
def Documentation.withoutValues : Documentation → Documentation
  | .document value => .document
      { value with props := ⟨value.props.entries.map fun entry =>
          (entry.1, entry.2.withoutValues)⟩ }
  | .empty => .empty
  | .absent => .absent

theorem Extraction.ofVisit_withOutput (file : File) (table : ShapeTable)
    (options : Options) (variant : OutputVariant) (valueSets : Bool)
    (visit : Visit) :
    ofVisit ⟨file, options.withOutput variant valueSets, table⟩ visit =
      ofVisit ⟨file, options, table⟩ visit := by
  cases visit <;> rfl

theorem rawDocument_withOutput (file : File) (options : Options)
    (variant : OutputVariant) (valueSets : Bool) :
    file.rawDocument (options.withOutput variant valueSets) =
      file.rawDocument options := by
  refine RawDocument.eq_of_parts ?_ (shapes_of_options file _ _)
    (defaults_of_options file _ _) (diagnostics_of_options file _ _)
  simp only [components_eq_flatMap, Extraction.ofVisit_withOutput]

section Assembly

variable (raw : RawDocument) (options : Options)

/-- Which component is documented is not a matter of output. -/
theorem RawDocument.selected?_withOutput (variant : OutputVariant)
    (valueSets : Bool) :
    raw.selected? (options.withOutput variant valueSets) =
      raw.selected? options := rfl

theorem RawDocument.assemble_diagnostics_withOutput (variant : OutputVariant)
    (valueSets : Bool) :
    (raw.assemble (options.withOutput variant valueSets)).diagnostics =
      (raw.assemble options).diagnostics := by
  simp only [RawDocument.assemble, selected?_withOutput]
  cases raw.selected? options with
  | none => rfl
  | some component =>
      cases hshape : component.props.bind raw.shape? with
      | none => simp [hshape]
      | some shape => simp [hshape]

theorem PropShape.props_withoutValues (variant : OutputVariant)
    (defaults : OrderedMap String String) (shape : PropShape) :
    (shape.props (options.withOutput variant false) defaults).entries =
      (shape.props (options.withOutput variant true) defaults).entries.map
        fun entry => (entry.1, entry.2.withoutValues) := by
  rw [PropShape.props, PropShape.props, ← OrderedMap.entries_ofList_map,
    List.map_map]
  rfl

/-- Without value sets the documentation is what is left of that with them. -/
theorem RawDocument.assemble_withoutValues (variant : OutputVariant) :
    (raw.assemble (options.withOutput variant false)).documentation =
      (raw.assemble (options.withOutput variant true)).documentation.withoutValues := by
  simp only [RawDocument.assemble, selected?_withOutput]
  cases raw.selected? options with
  | none => cases variant <;> rfl
  | some component =>
      cases hshape : component.props.bind raw.shape? with
      | none => cases variant <;> simp [hshape] <;> rfl
      | some shape =>
          simp only [hshape, Documentation.withoutValues, Component.document,
            ← PropShape.props_withoutValues]
          rfl

/-- With value sets a prop lists the alternatives of its member, if it has any. -/
theorem PropShape.values_withOutput (variant : OutputVariant)
    (defaults : OrderedMap String String) (shape : PropShape) (key : String) :
    ((shape.props (options.withOutput variant true) defaults).get? key).map
        PropDoc.values =
      (lastNamed shape.members key).map PropMember.valueSet := by
  rw [get?_props, Option.map_map]
  rfl

end Assembly

/-- How the documentation of one file compares in the two variants. -/
inductive VariantPair (file : File) (options : Options) :
    Documentation → Documentation → Prop where
  | nothing
      (hnone : ∀ declaration ∈ (file.rawDocument options).components,
        ¬ declaration.Marked options) :
      VariantPair file options .absent .empty
  | unresolved {component : Component}
      (hfirst : FirstComponent options (file.rawDocument options).components
        component)
      (hunresolved : component.Unresolved file) :
      VariantPair file options
        (.document ⟨some component.name, component.comment, .empty⟩) .empty
  | documented {component : Component} {name : String}
      (hfirst : FirstComponent options (file.rawDocument options).components
        component)
      (hprops : component.props = some name)
      (hdeclared : file.DeclaresShape name)
      (props : OrderedMap String PropDoc) :
      VariantPair file options
        (.document ⟨some component.name, component.comment, props⟩)
        (.document ⟨none, component.comment, props⟩)

theorem assemble_variantPair {file : File} (options : Options)
    (hgrammar : ∀ statement ∈ file.statements, statement.ExportsByGrammar)
    (valueSets : Bool) :
    VariantPair file options
      ((file.rawDocument options).assemble
        (options.withOutput .named valueSets)).documentation
      ((file.rawDocument options).assemble
        (options.withOutput .classic valueSets)).documentation := by
  obtain ⟨named, added, hnamed, houtcome⟩ :=
    assemble_outcome (options.withOutput .named valueSets) hgrammar
  rw [rawDocument_withOutput] at hnamed
  rw [hnamed]
  cases houtcome with
  | nothing hnone =>
      rw [rawDocument_withOutput] at hnone
      have hselected : (file.rawDocument options).selected?
          (options.withOutput .classic valueSets) = none :=
        (selected?_eq_none_iff _).mpr hnone
      simp only [RawDocument.assemble, hselected]
      exact .nothing hnone
  | @unresolved component hfirst hunresolved =>
      rw [rawDocument_withOutput] at hfirst
      have hselected : (file.rawDocument options).selected?
          (options.withOutput .classic valueSets) = some component :=
        (selected?_eq_some_iff _).mpr hfirst
      have hmissing : component.props.bind (file.rawDocument options).shape? =
          none := by
        rw [Option.bind_eq_none_iff]
        intro name hprops
        rw [← Option.not_isSome_iff_eq_none,
          rawDocument_shape?_isSome_iff options hgrammar]
        exact hunresolved name hprops
      simp only [RawDocument.assemble, hselected, hmissing]
      exact .unresolved hfirst hunresolved
  | @documented component name shape hfirst hprops hdeclared hshape =>
      rw [rawDocument_withOutput] at hfirst hshape
      have hselected : (file.rawDocument options).selected?
          (options.withOutput .classic valueSets) = some component :=
        (selected?_eq_some_iff _).mpr hfirst
      simp only [RawDocument.assemble, hselected, hprops, Option.bind_some, hshape]
      rw [rawDocument_withOutput]
      exact .documented hfirst hprops hdeclared _

/--
The output options change their own part of the output only. For a source text
that can be read, and whatever the other options are, the diagnostics are the
same under all four choices. The documentation without value sets is that with
them after the alternatives are dropped from every prop; with them, a prop lists
alternatives exactly if its member has a value set, and then these. And the
classic variant has nothing in an object where the named one has nothing at all
or a component without a declared shape, and else the same document without its
display name.
-/
theorem output_options_change_their_part {path text : String} {file : File}
    (hparse : File.parse? path text = some file) (options : Options) :
    let raw := file.rawDocument options
    ∃ result : OutputVariant → Bool → Assembly,
      (∀ variant valueSets,
        generate (options.withOutput variant valueSets) path text =
          .ok (result variant valueSets)) ∧
      (∀ variant valueSets other others,
        (result variant valueSets).diagnostics =
          (result other others).diagnostics) ∧
      (∀ variant, (result variant false).documentation =
        (result variant true).documentation.withoutValues) ∧
      (∀ variant component name shape,
        FirstComponent options raw.components component →
        component.props = some name → raw.shape? name = some shape →
          ∃ document, (result variant true).documentation = .document document ∧
            ∀ key, (document.props.get? key).map PropDoc.values =
              (lastNamed shape.members key).map PropMember.valueSet) ∧
      ∀ valueSets, VariantPair file options
        (result .named valueSets).documentation
        (result .classic valueSets).documentation := by
  intro raw
  refine ⟨fun variant valueSets =>
    raw.assemble (options.withOutput variant valueSets), ?_, ?_, ?_, ?_, ?_⟩
  · intro variant valueSets
    rw [generate_of_parse hparse, rawDocument_withOutput]
  · intro variant valueSets other others
    rw [raw.assemble_diagnostics_withOutput, raw.assemble_diagnostics_withOutput]
  · exact raw.assemble_withoutValues options
  · intro variant component name shape hfirst hprops hshape
    have hselected : raw.selected? (options.withOutput variant true) =
        some component := (selected?_eq_some_iff raw).mpr hfirst
    refine ⟨component.document (options.withOutput variant true)
      (shape.props (options.withOutput variant true) raw.defaults), ?_, ?_⟩
    · simp [RawDocument.assemble, hselected, hprops, hshape]
    · exact shape.values_withOutput options variant raw.defaults
  · exact assemble_variantPair options (File.exportsByGrammar hparse)

/-- A component with a union among its props. -/
def unionProp : String :=
  "class W extends Component<P>\x7b\x7d\ninterface P\x7ba:1|2;b?:3\x7d"

/-- Its document with all that the output options can show. -/
def unionPropDocument : Document :=
  ⟨some "W", "",
    ⟨[("a", ⟨" (one of the following:1,2)", "string", some ["1", "2"], true, none⟩),
      ("b", ⟨"", "3", none, false, none⟩)]⟩⟩

theorem output_options_of_unionProp :
    ∃ file, File.parse? "W.tsx" unionProp = some file ∧
      generate (Options.default.withOutput .named true) "W.tsx" unionProp =
        .ok ⟨.document unionPropDocument, []⟩ ∧
      ∃ plain classic,
        generate (Options.default.withOutput .named false) "W.tsx" unionProp =
          .ok ⟨(Documentation.document unionPropDocument).withoutValues, plain⟩ ∧
        generate (Options.default.withOutput .classic true) "W.tsx" unionProp =
          .ok classic ∧
        plain = [] ∧ classic.diagnostics = [] ∧
        VariantPair file .default (.document unionPropDocument)
          classic.documentation := by
  have hparsed : (File.parse? "W.tsx" unionProp).map (fun file =>
      (file.rawDocument (Options.default.withOutput .named true)).assemble
        (Options.default.withOutput .named true)) =
      some ⟨.document unionPropDocument, []⟩ := by
    decide +kernel
  obtain ⟨file, hparse, hassembly⟩ := Option.map_eq_some_iff.mp hparsed
  have hgenerate := generate_of_parse hparse (Options.default.withOutput .named true)
  rw [hassembly] at hgenerate
  obtain ⟨result, hresult, hdiagnostics, hvalues, _, hvariants⟩ :=
    output_options_change_their_part hparse .default
  have hfull : result .named true = ⟨.document unionPropDocument, []⟩ :=
    Except.ok.inj ((hresult .named true).symm.trans hgenerate)
  have hplain := hvalues .named
  have hclassic := hvariants true
  rw [hfull] at hplain hclassic
  refine ⟨file, hparse, hgenerate, (result .named false).diagnostics,
    result .classic true, ?_, hresult .classic true, ?_, ?_, hclassic⟩
  · rw [hresult, ← hplain]
  · rw [hdiagnostics .named false .named true, hfull]
  · rw [hdiagnostics .classic true .named true, hfull]

end ComponentDocs
