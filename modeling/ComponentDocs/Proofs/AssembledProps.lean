import ComponentDocs.Proofs.PlainExtension

/-!
What the props of a document show of the members of a shape.

Members may share a name, as overloads do. The document then has one prop for the
name: it stands where the first of them stands and shows the last one. Default
values join the props by name.
-/

namespace ComponentDocs

/--
What a prop shows of a member, and of the default value that is stored under its
name. A default value is never computed, and the text of a string is quoted.
-/
structure PropDoc.Shows (prop : PropDoc) (options : Options)
    (member : PropMember) (stored : Option String) : Prop where
  description : prop.description = member.description
  typeName : prop.typeName = member.typeText
  values : prop.values = if options.includeValueSets then member.valueSet else none
  required : prop.required = member.required
  quoted : member.typeText = "string" →
    prop.default = stored.map fun text => "\u201c" ++ text ++ "\u201d"
  verbatim : member.typeText ≠ "string" → prop.default = stored
  written : prop.toJson.get? "defaultValue" = some (prop.default.elim .null
    fun text => .object [("value", .string text), ("computed", .bool false)])

theorem PropDoc.toJson_default (prop : PropDoc) :
    prop.toJson.get? "defaultValue" = some (prop.default.elim .null
      fun text => .object [("value", .string text), ("computed", .bool false)]) := by
  cases hdefault : prop.default <;> simp [toJson, Json.get?, Json.field?, hdefault]

theorem PropMember.document_shows (options : Options)
    (defaults : OrderedMap String String) (member : PropMember) :
    (member.document options defaults).Shows options member
      (defaults.get? member.name) := by
  refine ⟨rfl, rfl, rfl, rfl, ?_, ?_, PropDoc.toJson_default _⟩
  · intro hstring
    simp [document, shownDefault, hstring]
  · intro hother
    simp [document, shownDefault, hother]

theorem lastNamed_name {members : List PropMember} {name : String}
    {member : PropMember} (hmember : lastNamed members name = some member) :
    member.name = name := by
  simpa using List.find?_some hmember

theorem size_props_eq_length_iff (options : Options)
    (defaults : OrderedMap String String) (shape : PropShape) :
    (shape.props options defaults).size = shape.members.length ↔
      (namesOf shape.members).Nodup := by
  have hsize := OrderedMap.size_ofList_eq_length_iff
    (shape.members.map fun member => (member.name, member.document options defaults))
  rw [List.length_map, List.map_map] at hsize
  exact hsize

/--
The props of a document are the members of its shape by name. Where a component
is found and its shape is there, the names of the members are listed once each,
in the order of their first occurrence, and each of them shows the last member of
its name. It has a default value exactly if one is stored under the name. So there
are as many props as members exactly if no two members share a name.
-/
theorem props_show_last_members {raw : RawDocument} {options : Options}
    {component : Component} {shape : PropShape}
    (hselected : raw.selected? options = some component)
    (hshape : component.props.bind raw.shape? = some shape) :
    ∃ document, (raw.assemble options).documentation = .document document ∧
      document.props.keys = (namesOf shape.members).eraseDups ∧
      (∀ name ∈ namesOf shape.members, ∃ member prop,
        lastNamed shape.members name = some member ∧
        document.props.get? name = some prop ∧
        prop.Shows options member (raw.defaults.get? name) ∧
        (prop.default.isSome ↔ name ∈ raw.defaults.keys)) ∧
      (document.props.size = shape.members.length ↔
        (namesOf shape.members).Nodup) := by
  have hassembled : (raw.assemble options).documentation =
      .document (component.document options (shape.props options raw.defaults)) := by
    simp [RawDocument.assemble, hselected, hshape]
  refine ⟨_, hassembled, keys_props options raw.defaults shape, ?_,
    size_props_eq_length_iff options raw.defaults shape⟩
  intro name hname
  obtain ⟨member, hmember⟩ :=
    Option.isSome_iff_exists.mp (lastNamed_isSome_iff.mpr hname)
  have hprop : (shape.props options raw.defaults).get? name =
      some (member.document options raw.defaults) := by
    rw [get?_props, hmember, Option.map_some]
  have hshows := member.document_shows options raw.defaults
  rw [lastNamed_name hmember] at hshows
  refine ⟨member, _, hmember, hprop, hshows, ?_⟩
  rw [← OrderedMap.get?_isSome_iff]
  by_cases hstring : member.typeText = "string"
  · rw [hshows.quoted hstring, Option.isSome_map]
  · rw [hshows.verbatim hstring]

/-- The last one of two members that share a name. -/
def lastOverload : PropMember :=
  ⟨"a", "string", some ["'x'", "'y'"], true, "Last."⟩

/-- A component with three members and default values for two names. -/
def overloadedProps : RawDocument where
  components := [⟨"C", .classBased, some "FC", some "P", ""⟩]
  shapes := [⟨"P", [⟨"a", "number", none, false, "First."⟩,
    ⟨"b", "number", none, true, ""⟩, lastOverload], ""⟩]
  defaults := ⟨[("a", "x"), ("z", "1")]⟩
  diagnostics := []

theorem props_of_overloadedProps :
    ∃ document prop,
      (overloadedProps.assemble .default).documentation = .document document ∧
      document.props.keys = ["a", "b"] ∧ document.props.size ≠ 3 ∧
      document.props.get? "a" = some prop ∧
      prop.description = "Last. (one of the following:'x','y')" ∧
      prop.typeName = "string" ∧ prop.default = some "\u201cx\u201d" := by
  have hselected : overloadedProps.selected? .default =
      some ⟨"C", .classBased, some "FC", some "P", ""⟩ := by decide
  have hshape : (some "P").bind overloadedProps.shape? =
      some ⟨"P", [⟨"a", "number", none, false, "First."⟩,
        ⟨"b", "number", none, true, ""⟩, lastOverload], ""⟩ := by decide
  obtain ⟨document, hdocument, hkeys, hprops, hsize⟩ :=
    props_show_last_members hselected hshape
  obtain ⟨member, prop, hlast, hprop, hshows, _⟩ := hprops "a" (by decide)
  have hmember : member = lastOverload := by
    apply Option.some.inj
    rw [← hlast]
    decide
  subst hmember
  refine ⟨document, prop, hdocument, hkeys.trans (by decide), ?_, hprop,
    hshows.description.trans (by decide), hshows.typeName, hshows.quoted rfl⟩
  intro hthree
  exact absurd (hsize.mp hthree) (by decide)

end ComponentDocs
