import ComponentDocs.Proofs.Accumulation
import ComponentDocs.Proofs.AssembledProps

/-!
Unions, from a signature to the JSON form of a document.

Whether a member has alternatives is decided where its signature is read, and
from there on they are only handed on: bases give their members unchanged to the
shapes that extend them, and a prop shows the alternatives twice, in its
description and in its type. So a member is traced back to a signature first,
along the run that collects inherited members.
-/

namespace ComponentDocs

open Source

/-! ### Texts inside texts -/

namespace Text

theorem occursIn_iff {needle cs : List Char} :
    occursIn needle cs = true ↔ needle <:+: cs := by
  induction cs with
  | nil => simp [occursIn]
  | cons c cs ih => simp [occursIn, List.infix_cons_iff, ih]

theorem holds_iff {s needle : String} :
    holds s needle = true ↔ needle.toList <:+: s.toList :=
  occursIn_iff

end Text

/-- Some text holds a mark of array types. -/
def HoldsArray (texts : List String) : Prop :=
  ∃ text ∈ texts, "Array".toList <:+: text.toList ∨ "[]".toList <:+: text.toList

theorem holdsArray_iff {texts : List String} :
    HoldsArray texts ↔
      texts.any (fun text => arrayMarkers.any (Text.holds text)) = true := by
  simp [HoldsArray, arrayMarkers, Text.holds_iff]

theorem unionCategory_of_array {texts : List String} (harray : HoldsArray texts) :
    unionCategory texts = "array" := by
  rw [unionCategory, if_pos (holdsArray_iff.mp harray)]

theorem unionCategory_of_not_array {texts : List String}
    (harray : ¬ HoldsArray texts) : unionCategory texts = "string" := by
  rw [unionCategory, if_neg (mt holdsArray_iff.mpr harray)]

/-! ### The alternatives of a signature -/

namespace Source

/-- A type in any number of parentheses. -/
inductive TypeExpr.Encloses (inner : TypeExpr) : TypeExpr → Prop where
  | bare : Encloses inner inner
  | parentheses (span : Span) {type : TypeExpr} (hinner : Encloses inner type) :
      Encloses inner (.parenthesized span type)

/-- What is left without parentheses is what they enclose. -/
theorem TypeExpr.core_encloses : (type : TypeExpr) → Encloses type.core type
  | .parenthesized span inner => .parentheses span inner.core_encloses
  | .reference .. | .union .. | .literal .. | .compound .. => .bare

theorem TypeExpr.core_eq_union_iff {type : TypeExpr} {span : Span}
    {alternatives : List TypeExpr} :
    type.core = .union span alternatives ↔
      Encloses (.union span alternatives) type := by
  constructor
  · intro hcore
    exact hcore ▸ type.core_encloses
  · intro henclosed
    induction henclosed with
    | bare => rfl
    | parentheses outer _ ih => exact ih

/--
A property whose type is a union of two or more alternatives, in any number of
parentheses.
-/
inductive Signature.HasUnion : Signature → List TypeExpr → Prop where
  | property (span : Span) (key : Key) (optional : Bool) {type : TypeExpr}
      (inside : Span) {alternatives : List TypeExpr}
      (henclosed : TypeExpr.Encloses (.union inside alternatives) type)
      (hseveral : 2 ≤ alternatives.length) :
      HasUnion (.property span key optional (some type)) alternatives

/-- The source texts of alternatives, without blanks around them. -/
def File.alternativeTexts (file : File) (alternatives : List TypeExpr) :
    List String :=
  alternatives.map fun alternative => Text.trimmed (file.textOf alternative.span)

end Source

theorem typeTextOf_union {type : TypeExpr} {inside : Span}
    {alternatives : List TypeExpr}
    (henclosed : TypeExpr.Encloses (.union inside alternatives) type)
    (hseveral : 2 ≤ alternatives.length) (file : File) :
    typeTextOf file (some type) =
      (unionCategory (file.alternativeTexts alternatives),
        some (file.alternativeTexts alternatives)) := by
  rw [← TypeExpr.core_eq_union_iff] at henclosed
  simp only [typeTextOf, henclosed, if_pos hseveral]
  rfl

/-- Only a union gives a type alternatives. -/
theorem exists_union_of_typeTextOf {file : File} {declared : Option TypeExpr}
    {texts : List String} (htexts : (typeTextOf file declared).2 = some texts) :
    ∃ type inside alternatives, declared = some type ∧
      TypeExpr.Encloses (.union inside alternatives) type ∧
      2 ≤ alternatives.length := by
  unfold typeTextOf at htexts
  split at htexts
  · cases htexts
  · rename_i type
    split at htexts
    · rename_i inside alternatives hcore
      split at htexts
      · exact ⟨type, inside, alternatives, rfl,
          TypeExpr.core_eq_union_iff.mp hcore, ‹_›⟩
      · cases htexts
    · cases htexts

section Signatures

variable {file : File} {member : PropMember} {texts : List String}

theorem type_of_property {span : Span} {key : Key} {optional : Bool}
    {declared : Option TypeExpr}
    (hmember : memberOf? file (.property span key optional declared) = some member) :
    (member.typeText, member.valueSet) = typeTextOf file declared := by
  obtain ⟨name, _, hread⟩ := Option.bind_eq_some_iff.mp hmember
  generalize typeTextOf file declared = type at hread ⊢
  rw [← Option.some.inj hread]

theorem valueSet_of_method {span : Span} {key : Key} {optional : Bool}
    {parts : List Part}
    (hmember : memberOf? file (.method span key optional parts) = some member) :
    member.valueSet = none := by
  obtain ⟨name, _, hread⟩ := Option.bind_eq_some_iff.mp hmember
  rw [← Option.some.inj hread]

variable {signature : Signature} (hmember : memberOf? file signature = some member)
include hmember

theorem type_of_hasUnion {alternatives : List TypeExpr}
    (hunion : signature.HasUnion alternatives) :
    (member.typeText, member.valueSet) =
      (unionCategory (file.alternativeTexts alternatives),
        some (file.alternativeTexts alternatives)) := by
  cases hunion with
  | property span key optional inside henclosed hseveral =>
      rw [type_of_property hmember, typeTextOf_union henclosed hseveral]

theorem exists_hasUnion (htexts : member.valueSet = some texts) :
    ∃ alternatives, signature.HasUnion alternatives := by
  cases signature with
  | property span key optional declared =>
      have hdeclared : (typeTextOf file declared).2 = some texts := by
        rw [← type_of_property hmember, htexts]
      obtain ⟨type, inside, alternatives, rfl, henclosed, hseveral⟩ :=
        exists_union_of_typeTextOf hdeclared
      exact ⟨alternatives, .property span key optional inside henclosed hseveral⟩
  | method span key optional parts =>
      rw [valueSet_of_method hmember] at htexts
      cases htexts
  | other parts => cases hmember

/-- A member has alternatives exactly if its signature declares a union. -/
theorem valueSet_eq_some_iff :
    member.valueSet = some texts ↔ ∃ alternatives,
      signature.HasUnion alternatives ∧
        texts = file.alternativeTexts alternatives := by
  constructor
  · intro htexts
    obtain ⟨alternatives, hunion⟩ := exists_hasUnion hmember htexts
    have hset := congrArg Prod.snd (type_of_hasUnion hmember hunion)
    exact ⟨alternatives, hunion, Option.some.inj (htexts.symm.trans hset)⟩
  · rintro ⟨alternatives, hunion, rfl⟩
    exact congrArg Prod.snd (type_of_hasUnion hmember hunion)

theorem typeText_of_valueSet (htexts : member.valueSet = some texts) :
    member.typeText = unionCategory texts := by
  obtain ⟨alternatives, hunion, rfl⟩ := (valueSet_eq_some_iff hmember).mp htexts
  exact congrArg Prod.fst (type_of_hasUnion hmember hunion)

end Signatures

/-! ### Where members come from -/

theorem mem_of_mem_addMissing {members inherited : List PropMember}
    {member : PropMember} (hmember : member ∈ addMissing members inherited) :
    member ∈ members ∨ member ∈ inherited := by
  induction inherited generalizing members with
  | nil => exact Or.inl hmember
  | cons first rest ih =>
      rw [addMissing_cons] at hmember
      rcases ih hmember with hold | hrest
      · split at hold
        · exact Or.inl hold
        · rcases List.mem_append.mp hold with hmem | hfirst
          · exact Or.inl hmem
          · exact Or.inr (List.mem_cons.mpr (Or.inl (List.mem_singleton.mp hfirst)))
      · exact Or.inr (List.mem_cons_of_mem first hrest)

/-- A run takes its members from the shapes that its bases reach. -/
theorem Inherits.mem_members {table : ShapeTable}
    {own : ShapeSource → List PropMember} {state final : Resolution}
    {bases : List String} (hrun : Inherits table own state bases final)
    {member : PropMember} (hmember : member ∈ final.members) :
    member ∈ state.members ∨ ∃ base ∈ bases, ∃ ancestor source,
      Reaches table.get? base ancestor ∧ table.get? ancestor = some source ∧
        member ∈ own source := by
  induction hrun with
  | done => exact Or.inl hmember
  | unknown _ _ ih =>
      exact (ih hmember).imp_right fun ⟨base, hbase, hfrom⟩ =>
        ⟨base, List.mem_cons_of_mem _ hbase, hfrom⟩
  | again _ _ _ ih =>
      exact (ih hmember).imp_right fun ⟨base, hbase, hfrom⟩ =>
        ⟨base, List.mem_cons_of_mem _ hbase, hfrom⟩
  | @visit state inner final base bases shape hbase _ _ _ ihinner ihrest =>
      rcases ihrest hmember with hstate | ⟨other, hother, hfrom⟩
      · rcases mem_of_mem_addMissing hstate with hold | hinner
        · exact Or.inl hold
        · -- what is absorbed is the base's own, or comes from behind it
          refine Or.inr ⟨base, List.mem_cons_self, ?_⟩
          rcases ihinner hinner with hown | ⟨next, hnext, ancestor, source, hreach, hfrom⟩
          · exact ⟨base, shape, Reaches.refl _ base, hbase, hown⟩
          · exact ⟨ancestor, source, Reaches.of_base hbase hnext hreach, hfrom⟩
      · exact Or.inr ⟨other, List.mem_cons_of_mem base hother, hfrom⟩

/-- A member of a resolved shape is declared by a shape that it reaches. -/
theorem exists_ancestor {file : File} {table : ShapeTable} {name : String}
    {source : ShapeSource} {member : PropMember}
    (hname : table.get? name = some source)
    (hmember : member ∈ (resolveShape file table name).members) :
    ∃ ancestor declared, Reaches table.get? name ancestor ∧
      table.get? ancestor = some declared ∧ member ∈ ownMembers file declared := by
  have hrun := resolveUpTo_inherits (ownMembers file) hname
    (Nat.lt_succ_self table.size)
  rcases hrun.mem_members hmember with
    hown | ⟨base, hbase, ancestor, declared, hreach, hfrom⟩
  · exact ⟨name, source, Reaches.refl _ name, hname, hown⟩
  · exact ⟨ancestor, declared, Reaches.of_base hname hbase hreach, hfrom⟩

theorem rawDocument_distinctShapes (file : File) (options : Options) :
    (file.rawDocument options).DistinctShapes :=
  RawDocument.ofFindings_distinctShapes _

/-- A found shape is declared, and has the members that its name resolves to. -/
theorem members_of_mem_shapes {file : File} {options : Options} {shape : PropShape}
    (hshape : shape ∈ (file.rawDocument options).shapes) :
    ∃ source, lastShape? file.statements shape.name = some source ∧
      shape.members = (resolveShape file (ShapeTable.ofStatements file.statements)
        shape.name).members := by
  have hself := (RawDocument.mem_shapes_iff
    (rawDocument_distinctShapes file options) shape).mp hshape
  cases hdeclared : lastShape? file.statements shape.name with
  | none =>
      rw [rawDocument_shape?_eq_none options hdeclared] at hself
      cases hself
  | some source =>
      obtain ⟨comment, hfound⟩ := rawDocument_shape?_eq_some options hdeclared
      exact ⟨source, rfl, congrArg PropShape.members
        (Option.some.inj (hself.symm.trans hfound))⟩

/-- A shape has a signature, by its own body or through its bases. -/
def Source.File.Provides (file : File) (name : String) (signature : Signature) :
    Prop :=
  ∃ ancestor source, Reaches (lastShape? file.statements) name ancestor ∧
    lastShape? file.statements ancestor = some source ∧
    signature ∈ source.members

/-- Each member of a found shape is the reading of a signature that it has. -/
theorem exists_signature {file : File} {options : Options} {shape : PropShape}
    {member : PropMember} (hshape : shape ∈ (file.rawDocument options).shapes)
    (hmember : member ∈ shape.members) :
    ∃ signature, file.Provides shape.name signature ∧
      memberOf? file signature = some member := by
  obtain ⟨source, hsource, hmembers⟩ := members_of_mem_shapes hshape
  rw [hmembers] at hmember
  rw [← get?_ofStatements] at hsource
  obtain ⟨ancestor, declared, hreach, hancestor, hown⟩ :=
    exists_ancestor hsource hmember
  rw [get?_ofStatements] at hreach hancestor
  obtain ⟨signature, hsignature, hread⟩ := List.mem_filterMap.mp hown
  exact ⟨signature, ⟨ancestor, declared, hreach, hancestor, hsignature⟩, hread⟩

/-! ### What a document shows -/

/-- An alternative as an item of the type's value. -/
def writtenAlternative (text : String) : Json :=
  .object [("computed", .bool false), ("value", .string text)]

/-- The value of the type of a prop, in JSON. -/
def PropDoc.writtenValues (prop : PropDoc) : Option Json :=
  (prop.toJson.get? "type").bind fun type => type.get? "value"

theorem PropDoc.writtenValues_eq (prop : PropDoc) :
    prop.writtenValues =
      prop.values.map fun texts => .array (texts.map writtenAlternative) := by
  cases hvalues : prop.values with
  | none => simp [writtenValues, toJson, typeJson, Json.get?, Json.field?, hvalues]
  | some texts =>
      simp [writtenValues, toJson, typeJson, Json.get?, Json.field?, hvalues,
        writtenAlternative]

/-- A prop of a document in JSON. -/
def Document.writtenProp (document : Document) (name : String) : Option Json :=
  (document.toJson.get? "props").bind fun props => props.get? name

theorem Document.writtenProp_eq {document : Document}
    (hkeys : document.props.keys.Nodup) (name : String) :
    document.writtenProp name = (document.props.get? name).map PropDoc.toJson := by
  have hprops : document.toJson.get? "props" =
      some (.object (document.props.entries.map fun entry =>
        (entry.1, entry.2.toJson))) := by
    cases hname : document.displayName <;>
      simp [toJson, Json.get?, Json.field?, hname]
  have hfield := OrderedMap.get?_ofList_map PropDoc.toJson document.props.entries name
  rw [OrderedMap.get?_ofList, OrderedMap.ofList_entries hkeys] at hfield
  rw [writtenProp, hprops, Option.bind_some, ← hfield]
  rfl

/-- What a prop shows of the alternatives of a member. -/
structure PropDoc.ShowsAlternatives (prop : PropDoc) (options : Options)
    (member : PropMember) : Prop where
  plain : member.valueSet = none →
    prop.description = member.comment ∧ prop.writtenValues = none
  described : ∀ texts, member.valueSet = some texts →
    prop.description = member.comment ++ " (one of the following:" ++
      String.intercalate "," texts ++ ")"
  listed : ∀ texts, member.valueSet = some texts →
    prop.writtenValues = if options.includeValueSets then
      some (.array (texts.map writtenAlternative)) else none

theorem PropMember.document_showsAlternatives (options : Options)
    (defaults : OrderedMap String String) (member : PropMember) :
    (member.document options defaults).ShowsAlternatives options member := by
  have hvalues := (member.document options defaults).writtenValues_eq
  refine ⟨?_, ?_, ?_⟩
  · intro hnone
    rw [hvalues]
    simp [document, description, hnone]
  · intro texts htexts
    simp [document, description, htexts]
  · intro texts htexts
    rw [hvalues]
    cases hsets : options.includeValueSets <;> simp [document, htexts, hsets]

/-- A shape that is found is the one that its component is documented by. -/
theorem assemble_of_shape {raw : RawDocument} {options : Options}
    {component : Component} {shape : PropShape}
    (hdistinct : raw.DistinctShapes) (hshape : shape ∈ raw.shapes)
    (hselected : raw.selected? options = some component)
    (hprops : component.props = some shape.name) :
    (raw.assemble options).documentation = .document (component.document options
      (shape.props options raw.defaults)) := by
  have hfound := (RawDocument.mem_shapes_iff hdistinct shape).mp hshape
  simp [RawDocument.assemble, hselected, hprops, hfound]

/--
Unions are shown alike from the source to the output. Each member of each shape is
the reading of a signature that the shape has, by its own body or through its
bases. It has alternatives exactly if the signature is a property whose type is,
in any number of parentheses, a union of two or more; they are then the trimmed
texts of these, in order, and decide between `array` and `string`. Where the
member is the last one of its name in the shape that is documented, its prop has
all of them in its description, under any options, and lists the same ones in the
value of its type if the options ask for it.
-/
theorem unions_are_shown_as_they_are_declared {path text : String} {file : File}
    (hparse : File.parse? path text = some file) (options : Options) :
    ∃ raw, extract options path text = .ok raw ∧
      ∀ shape ∈ raw.shapes, ∀ member ∈ shape.members,
        (∃ signature, file.Provides shape.name signature ∧
          memberOf? file signature = some member ∧
          ∀ texts, member.valueSet = some texts ↔ ∃ alternatives,
            signature.HasUnion alternatives ∧
              texts = file.alternativeTexts alternatives) ∧
        (∀ texts, member.valueSet = some texts →
          (HoldsArray texts → member.typeText = "array") ∧
          (¬ HoldsArray texts → member.typeText = "string")) ∧
        ∀ component, raw.selected? options = some component →
          component.props = some shape.name →
          lastNamed shape.members member.name = some member →
          ∃ document diagnostics prop,
            generate options path text = .ok ⟨.document document, diagnostics⟩ ∧
            document.props.get? member.name = some prop ∧
            document.writtenProp member.name = some prop.toJson ∧
            prop.ShowsAlternatives options member := by
  refine ⟨file.rawDocument options, extract_of_parse hparse options, ?_⟩
  intro shape hshape member hmember
  obtain ⟨signature, hprovided, hread⟩ := exists_signature hshape hmember
  refine ⟨⟨signature, hprovided, hread, fun texts => valueSet_eq_some_iff hread⟩,
    ?_, ?_⟩
  · intro texts htexts
    rw [typeText_of_valueSet hread htexts]
    exact ⟨unionCategory_of_array, unionCategory_of_not_array⟩
  · intro component hselected hprops hlast
    have hdocument := assemble_of_shape (rawDocument_distinctShapes file options)
      hshape hselected hprops
    have hprop := get?_props options (file.rawDocument options).defaults shape
      member.name
    rw [hlast, Option.map_some] at hprop
    refine ⟨component.document options
        (shape.props options (file.rawDocument options).defaults),
      ((file.rawDocument options).assemble options).diagnostics, _, ?_, hprop, ?_,
      member.document_showsAlternatives options _⟩
    · rw [generate_of_parse hparse, ← hdocument]
    · rw [Document.writtenProp_eq (OrderedMap.keys_ofList_nodup _)]
      exact congrArg (Option.map PropDoc.toJson) hprop

/-- A union in parentheses that is inherited, one alternative being an array. -/
def inheritedUnion : String :=
  "class W extends FC<P>\x7b\x7d\ninterface B\x7b/** Kind. */k:((1|X[]))\x7d\n" ++
  "interface P extends B\x7ba:(3)\x7d"

/-- The default options, with the alternatives in the types. -/
def valueSetOptions : Options :=
  { Options.default with includeValueSets := true }

def inheritedMember : PropMember :=
  ⟨"k", "array", some ["1", "X[]"], true, "Kind."⟩

def inheritingShape : PropShape :=
  ⟨"P", [⟨"a", "(3)", none, true, ""⟩, inheritedMember], ""⟩

theorem unions_of_inheritedUnion :
    ∃ file signature alternatives document diagnostics prop,
      File.parse? "W.tsx" inheritedUnion = some file ∧
      file.Provides "P" signature ∧ signature.HasUnion alternatives ∧
      file.alternativeTexts alternatives = ["1", "X[]"] ∧
      generate valueSetOptions "W.tsx" inheritedUnion =
        .ok ⟨.document document, diagnostics⟩ ∧
      document.props.get? "k" = some prop ∧
      document.writtenProp "k" = some prop.toJson ∧
      prop.description = "Kind. (one of the following:1,X[])" ∧
      prop.writtenValues = some (.array [
        .object [("computed", .bool false), ("value", .string "1")],
        .object [("computed", .bool false), ("value", .string "X[]")]]) := by
  have hparsed : (File.parse? "W.tsx" inheritedUnion).map (fun file =>
      ((file.rawDocument valueSetOptions).selected? valueSetOptions,
        decide (inheritingShape ∈ (file.rawDocument valueSetOptions).shapes))) =
      some (some ⟨"W", .classBased, some "FC", some "P", ""⟩, true) := by
    decide +kernel
  obtain ⟨file, hparse, hfacts⟩ := Option.map_eq_some_iff.mp hparsed
  obtain ⟨hselected, hshape⟩ := Prod.mk.inj hfacts
  obtain ⟨raw, hraw, hmembers⟩ :=
    unions_are_shown_as_they_are_declared hparse valueSetOptions
  rw [extract_of_parse hparse, Except.ok.injEq] at hraw
  subst hraw
  obtain ⟨⟨signature, hprovided, _, hunion⟩, _, hdocument⟩ :=
    hmembers inheritingShape (of_decide_eq_true hshape) inheritedMember (by decide)
  obtain ⟨alternatives, hhas, htexts⟩ := (hunion ["1", "X[]"]).mp rfl
  obtain ⟨document, diagnostics, prop, hgenerate, hprop, hwritten, hshows⟩ :=
    hdocument _ hselected rfl (by decide)
  exact ⟨file, signature, alternatives, document, diagnostics, prop, hparse,
    hprovided, hhas, htexts.symm, hgenerate, hprop, hwritten,
    (hshows.described _ rfl).trans (by decide), hshows.listed _ rfl⟩

end ComponentDocs
