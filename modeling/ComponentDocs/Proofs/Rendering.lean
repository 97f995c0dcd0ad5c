import ComponentDocs.Document
import ComponentDocs.Proofs.JsonText
import ComponentDocs.Proofs.OrderedMap
import Mathlib.Data.List.Forall2

/-!
What documentation looks like when it is rendered, and that nothing is lost.

`Documentation.Written` says which value stands for which documentation, field by
field. The rendered text is read as that value in both layouts, and the value
stands for no other documentation.
-/

namespace ComponentDocs

/-! ### The form of a document -/

/-- A default value is an object, or `null` where there is none. -/
inductive DefaultWritten : Option String → Json → Prop where
  | absent : DefaultWritten none .null
  | present (text : String) :
      DefaultWritten (some text)
        (.object [("value", .string text), ("computed", .bool false)])

/-- An alternative of a union is an object with its text. -/
def AlternativeWritten (text : String) (value : Json) : Prop :=
  value = .object [("computed", .bool false), ("value", .string text)]

/-- A type has a name, and a value only if there are alternatives. -/
inductive TypeWritten (name : String) : Option (List String) → Json → Prop where
  | named : TypeWritten name none (.object [("name", .string name)])
  | union {texts : List String} {values : List Json}
      (hvalues : List.Forall₂ AlternativeWritten texts values) :
      TypeWritten name (some texts)
        (.object [("name", .string name), ("value", .array values)])

/-- A prop has a description, a type, whether it is required, and a default. -/
inductive PropDoc.Written (prop : PropDoc) : Json → Prop where
  | intro {type default : Json}
      (htype : TypeWritten prop.typeName prop.values type)
      (hdefault : DefaultWritten prop.default default) :
      prop.Written (.object
        [("description", .string prop.description), ("type", type),
          ("required", .bool prop.required), ("defaultValue", default)])

/-- Props are the fields of an object, in the order of the map. -/
def PropsWritten (props : OrderedMap String PropDoc)
    (fields : List (String × Json)) : Prop :=
  List.Forall₂ (fun entry field => entry.1 = field.1 ∧ entry.2.Written field.2)
    props.entries fields

/-- A document has a display name only if it is set, a description and props. -/
inductive Document.Written (document : Document) : Json → Prop where
  | named {name : String} {fields : List (String × Json)}
      (hname : document.displayName = some name)
      (hprops : PropsWritten document.props fields) :
      document.Written (.object
        [("displayName", .string name),
          ("description", .string document.description),
          ("props", .object fields)])
  | unnamed {fields : List (String × Json)}
      (hname : document.displayName = none)
      (hprops : PropsWritten document.props fields) :
      document.Written (.object
        [("description", .string document.description),
          ("props", .object fields)])

/-- The value that documentation is written as. -/
inductive Documentation.Written : Documentation → Json → Prop where
  | document {document : Document} {value : Json}
      (hvalue : document.Written value) : Written (.document document) value
  | empty : Written .empty (.object [])
  | absent : Written .absent .null

/-! ### Documentation has that form -/

theorem PropDoc.toJson_written (prop : PropDoc) : prop.Written prop.toJson := by
  obtain ⟨description, typeName, values, required, default⟩ := prop
  refine .intro ?_ ?_
  · cases values with
    | none => exact .named
    | some values =>
        refine .union ?_
        rw [List.forall₂_map_right_iff]
        exact List.forall₂_same.mpr fun _ _ => rfl
  · cases default with
    | none => exact .absent
    | some text => exact .present text

theorem Document.toJson_written (document : Document) :
    document.Written document.toJson := by
  obtain ⟨displayName, description, props⟩ := document
  have hprops : PropsWritten props (props.entries.map fun entry =>
      (entry.1, entry.2.toJson)) := by
    rw [PropsWritten, List.forall₂_map_right_iff]
    exact List.forall₂_same.mpr fun entry _ => ⟨rfl, entry.2.toJson_written⟩
  cases displayName with
  | none => exact .unnamed rfl hprops
  | some name => exact .named rfl hprops

theorem Documentation.toJson_written (documentation : Documentation) :
    documentation.Written documentation.toJson := by
  cases documentation with
  | document document => exact .document document.toJson_written
  | empty => exact .empty
  | absent => exact .absent

/-! ### The form tells documentation apart -/

theorem DefaultWritten.leftUnique : Relator.LeftUnique DefaultWritten := by
  intro text other value htext hother
  cases htext <;> cases hother <;> rfl

theorem AlternativeWritten.leftUnique :
    Relator.LeftUnique AlternativeWritten := by
  intro text other value htext hother
  simpa using htext.symm.trans hother

theorem TypeWritten.unique {name other : String}
    {texts others : Option (List String)} {value : Json}
    (hname : TypeWritten name texts value)
    (hother : TypeWritten other others value) :
    name = other ∧ texts = others := by
  cases hname with
  | named =>
      cases hother
      exact ⟨rfl, rfl⟩
  | union htexts =>
      cases hother with
      | union hothers =>
          have hsame := AlternativeWritten.leftUnique.forall₂ htexts hothers
          exact ⟨rfl, congrArg some hsame⟩

theorem PropDoc.written_leftUnique : Relator.LeftUnique PropDoc.Written := by
  intro prop other value hprop hother
  obtain ⟨description, typeName, values, required, default⟩ := prop
  obtain ⟨htype, hdefault⟩ := hprop
  generalize hvalue : Json.object _ = value at hother
  obtain ⟨htype', hdefault'⟩ := hother
  simp only [Json.object.injEq, List.cons.injEq, Prod.mk.injEq,
    Json.string.injEq, Json.bool.injEq, true_and, and_true] at hvalue
  obtain ⟨hdescription, rfl, hrequired, rfl⟩ := hvalue
  obtain ⟨hname, hvalues⟩ := htype.unique htype'
  have htext := DefaultWritten.leftUnique hdefault hdefault'
  cases other
  simp_all

theorem PropsWritten.leftUnique : Relator.LeftUnique PropsWritten := by
  rintro ⟨entries⟩ ⟨others⟩ fields hentries hothers
  have hentry : Relator.LeftUnique fun (entry : String × PropDoc)
      (field : String × Json) => entry.1 = field.1 ∧ entry.2.Written field.2 := by
    rintro entry other field ⟨hname, hvalue⟩ ⟨hname', hvalue'⟩
    exact Prod.ext (hname.trans hname'.symm)
      (PropDoc.written_leftUnique hvalue hvalue')
  exact congrArg OrderedMap.mk (hentry.forall₂ hentries hothers)

theorem Document.eq_of_parts {document other : Document}
    (hname : document.displayName = other.displayName)
    (hdescription : document.description = other.description)
    (hprops : document.props = other.props) : document = other := by
  obtain ⟨displayName, description, props⟩ := document
  cases hname
  cases hdescription
  cases hprops
  rfl

theorem Document.written_leftUnique : Relator.LeftUnique Document.Written := by
  intro document other value hdocument hother
  cases hdocument with
  | named hname hprops =>
      generalize hvalue : Json.object _ = value at hother
      cases hother with
      | named hname' hprops' =>
          simp only [Json.object.injEq, List.cons.injEq, Prod.mk.injEq,
            Json.string.injEq, true_and, and_true] at hvalue
          obtain ⟨rfl, hdescription, rfl⟩ := hvalue
          exact eq_of_parts (hname.trans hname'.symm) hdescription
            (PropsWritten.leftUnique hprops hprops')
      | unnamed hname' hprops' => simp at hvalue
  | unnamed hname hprops =>
      generalize hvalue : Json.object _ = value at hother
      cases hother with
      | named hname' hprops' => simp at hvalue
      | unnamed hname' hprops' =>
          simp only [Json.object.injEq, List.cons.injEq, Prod.mk.injEq,
            Json.string.injEq, true_and, and_true] at hvalue
          obtain ⟨hdescription, rfl⟩ := hvalue
          exact eq_of_parts (hname.trans hname'.symm) hdescription
            (PropsWritten.leftUnique hprops hprops')

/-- A value stands for one documentation at most. -/
theorem Documentation.written_leftUnique :
    Relator.LeftUnique Documentation.Written := by
  intro documentation other value hvalue hother
  cases hvalue with
  | document hdocument =>
      cases hother with
      | document hdocument' =>
          exact congrArg _ (Document.written_leftUnique hdocument hdocument')
      | empty => nomatch hdocument
      | absent => nomatch hdocument
  | empty =>
      cases hother with
      | document hdocument => nomatch hdocument
      | empty => rfl
  | absent =>
      cases hother with
      | document hdocument => nomatch hdocument
      | absent => rfl

/-! ### What the value is made of -/

/-- No object in a value has two fields of the same name. -/
inductive Json.DistinctNames : Json → Prop where
  | null : DistinctNames .null
  | bool (value : Bool) : DistinctNames (.bool value)
  | integer (value : Int) : DistinctNames (.integer value)
  | real (value : Decimal.Binary64) : DistinctNames (.real value)
  | string (value : String) : DistinctNames (.string value)
  | array {items : List Json} (hitems : ∀ item ∈ items, item.DistinctNames) :
      DistinctNames (.array items)
  | object {fields : List (String × Json)}
      (hnames : (fields.map Prod.fst).Nodup)
      (hfields : ∀ field ∈ fields, field.2.DistinctNames) :
      DistinctNames (.object fields)

attribute [simp] Json.DistinctNames.null Json.DistinctNames.bool
  Json.DistinctNames.string

@[simp] theorem Json.distinctNames_array_iff {items : List Json} :
    DistinctNames (.array items) ↔ ∀ item ∈ items, item.DistinctNames := by
  constructor
  · intro harray
    cases harray with
    | array hitems => exact hitems
  · exact .array

@[simp] theorem Json.distinctNames_object_iff {fields : List (String × Json)} :
    DistinctNames (.object fields) ↔ (fields.map Prod.fst).Nodup ∧
      ∀ field ∈ fields, field.2.DistinctNames := by
  constructor
  · intro hobject
    cases hobject with
    | object hnames hfields => exact ⟨hnames, hfields⟩
  · rintro ⟨hnames, hfields⟩
    exact .object hnames hfields

theorem PropDoc.toJson_plain (prop : PropDoc) (room : Nat) :
    Json.Plain (room + 4) prop.toJson := by
  obtain ⟨description, typeName, values, required, default⟩ := prop
  cases values <;> cases default <;> simp [toJson, typeJson]

theorem PropDoc.toJson_distinctNames (prop : PropDoc) :
    prop.toJson.DistinctNames := by
  obtain ⟨description, typeName, values, required, default⟩ := prop
  cases values <;> cases default <;> simp [toJson, typeJson]

theorem Documentation.toJson_plain (documentation : Documentation) (room : Nat) :
    Json.Plain (room + 6) documentation.toJson := by
  cases documentation with
  | document document =>
      obtain ⟨displayName, description, props⟩ := document
      have hprops : Json.Plain (room + 5) (.object (props.entries.map
          fun entry => (entry.1, entry.2.toJson))) := by
        apply Json.Plain.object
        intro field hfield
        obtain ⟨entry, _, rfl⟩ := List.mem_map.mp hfield
        exact entry.2.toJson_plain room
      cases displayName <;> simpa [toJson, Document.toJson] using hprops
  | empty => simp [toJson]
  | absent => simp [toJson]

theorem Documentation.toJson_distinctNames {documentation : Documentation}
    (hkeys : ∀ document, documentation = .document document →
      document.props.keys.Nodup) : documentation.toJson.DistinctNames := by
  cases documentation with
  | document document =>
      have hprops : Json.DistinctNames (.object (document.props.entries.map
          fun entry => (entry.1, entry.2.toJson))) := by
        apply Json.DistinctNames.object
        · rw [List.map_map]
          exact hkeys document rfl
        · intro field hfield
          obtain ⟨entry, _, rfl⟩ := List.mem_map.mp hfield
          exact entry.2.toJson_distinctNames
      cases hname : document.displayName <;>
        simpa [toJson, Document.toJson, hname] using hprops
  | empty => simp [toJson]
  | absent => simp [toJson]

/-- The props of assembled documentation have distinct names. -/
theorem RawDocument.assemble_props_nodup (raw : RawDocument) (options : Options)
    (document : Document)
    (hdocument : (raw.assemble options).documentation = .document document) :
    document.props.keys.Nodup := by
  unfold RawDocument.assemble at hdocument
  split at hdocument
  · cases hvariant : options.outputVariant <;> simp [hvariant] at hdocument
  · split at hdocument
    · cases hdocument
      exact OrderedMap.keys_ofList_nodup _
    · cases hvariant : options.outputVariant with
      | classic => simp [hvariant] at hdocument
      | named =>
          simp only [hvariant, Documentation.document.injEq] at hdocument
          rw [← hdocument]
          exact List.nodup_nil

/-! ### Reading what is rendered -/

theorem Documentation.read?_render (documentation : Documentation)
    (layout : Json.Layout) :
    Json.read? (documentation.render layout) = some documentation.toJson :=
  Json.read?_render (documentation.toJson_plain 121) layout

/-- Texts tell documentation apart, even across layouts. -/
theorem Documentation.eq_of_render_eq {documentation other : Documentation}
    {layout layout' : Json.Layout}
    (hrender : documentation.render layout = other.render layout') :
    documentation = other := by
  have hread := documentation.read?_render layout
  rw [hrender, other.read?_render layout', Option.some.injEq] at hread
  apply written_leftUnique documentation.toJson_written
  rw [← hread]
  exact other.toJson_written

/--
Rendering loses nothing. For all documentation that is assembled, the text of
both layouts is read as one and the same value. No object in it repeats a name,
it has the form of that documentation, field by field and in order, and of no
other. So texts are equal only if the documentation is, and a document, with
props or without, nothing in an object and nothing at all have different texts.
-/
theorem rendering_loses_nothing (raw : RawDocument) (options : Options) :
    let documentation := (raw.assemble options).documentation
    (∃ value,
      (∀ layout, Json.read? (documentation.render layout) = some value) ∧
      value.DistinctNames ∧ documentation.Written value ∧
      ∀ other : Documentation, other.Written value → other = documentation) ∧
    (∀ (other : Documentation) (layout layout' : Json.Layout),
      documentation.render layout = other.render layout' →
        documentation = other) ∧
    ∀ (document : Document) (layout : Json.Layout),
      Documentation.render layout (.document document) ≠
          Documentation.render layout .empty ∧
        Documentation.render layout (.document document) ≠
          Documentation.render layout .absent ∧
        Documentation.render layout .empty ≠
          Documentation.render layout .absent := by
  intro documentation
  refine ⟨⟨documentation.toJson, ?_, ?_, ?_, ?_⟩, ?_, ?_⟩
  · exact documentation.read?_render
  · exact Documentation.toJson_distinctNames (raw.assemble_props_nodup options)
  · exact documentation.toJson_written
  · intro other hother
    exact Documentation.written_leftUnique hother documentation.toJson_written
  · intro other layout layout' hrender
    exact Documentation.eq_of_render_eq hrender
  · intro document layout
    refine ⟨?_, ?_, ?_⟩
    · intro hrender
      cases Documentation.eq_of_render_eq hrender
    · intro hrender
      cases Documentation.eq_of_render_eq hrender
    · intro hrender
      cases Documentation.eq_of_render_eq hrender

end ComponentDocs
