import ComponentDocs.Generation
import ComponentDocs.Proofs.Findings
import ComponentDocs.Proofs.Reachability

/-!
Which props a document lists.

The props of a document are the plainly named members of its component's shape
and of all shapes that this one reaches through its bases, each name once, and
the shape's own names stand in front. This holds whatever the graph of bases
looks like.
-/

namespace ComponentDocs

open Source

/-- The name of a property or method that is written without brackets. -/
def Source.Signature.plainName? : Signature → Option String
  | .property _ key _ _ => key.plainName?
  | .method _ key _ _ => key.plainName?
  | .other _ => none

/-- The names that a shape declares itself, in the order of its body. -/
def ShapeSource.ownNames (source : ShapeSource) : List String :=
  source.members.filterMap Signature.plainName?

theorem memberOf?_name (file : File) (signature : Signature) :
    (memberOf? file signature).map PropMember.name = signature.plainName? := by
  cases signature with
  | property span key optional declaredType =>
      cases hkey : key.plainName? <;>
        simp [memberOf?, Signature.plainName?, hkey]
  | method span key optional parts =>
      cases hkey : key.plainName? <;>
        simp [memberOf?, Signature.plainName?, hkey]
  | other parts => rfl

theorem namesOf_ownMembers (file : File) (source : ShapeSource) :
    namesOf (ownMembers file source) = source.ownNames := by
  have hname : (fun signature => (memberOf? file signature).map PropMember.name) =
      Signature.plainName? :=
    funext (memberOf?_name file)
  rw [namesOf, ownMembers, List.map_filterMap, hname, ShapeSource.ownNames]

/-- The props of a shape are listed under the names of its members. -/
theorem keys_props (options : Options) (defaults : OrderedMap String String)
    (shape : PropShape) :
    (shape.props options defaults).keys = (namesOf shape.members).eraseDups := by
  rw [PropShape.props, OrderedMap.keys_ofList, List.map_map]
  rfl

section Resolved

variable {file : File} {table : ShapeTable} {name : String}
variable {source : ShapeSource}

/-- A resolved shape starts with what it declares itself. -/
theorem resolveShape_members_eq_append (file : File)
    (hname : table.get? name = some source) :
    ∃ inherited, (resolveShape file table name).members =
      ownMembers file source ++ inherited := by
  obtain ⟨inherited, hmembers⟩ :=
    (resolveUpTo_inherits (ownMembers file) hname
      (Nat.lt_succ_self table.size)).members_eq_addMissing
  obtain ⟨added, hadded⟩ := addMissing_eq_append (ownMembers file source) inherited
  exact ⟨added, hmembers.trans hadded⟩

/-- The names of a resolved shape are those of all shapes that it reaches. -/
theorem mem_namesOf_resolveShape_iff (hname : table.get? name = some source)
    {member : String} :
    member ∈ namesOf (resolveShape file table name).members ↔
      ∃ ancestor declared, Reaches table.get? name ancestor ∧
        table.get? ancestor = some declared ∧ member ∈ declared.ownNames := by
  rw [resolveShape, mem_namesOf_resolveUpTo_iff hname (Nat.lt_succ_self table.size)]
  simp only [namesOf_ownMembers]

end Resolved

theorem extract_of_parse {path text : String} {file : File}
    (hparse : File.parse? path text = some file) (options : Options) :
    extract options path text = .ok (file.rawDocument options) := by
  unfold extract
  rw [hparse]

theorem generate_of_parse {path text : String} {file : File}
    (hparse : File.parse? path text = some file) (options : Options) :
    generate options path text =
      .ok ((file.rawDocument options).assemble options) := by
  unfold generate
  rw [extract_of_parse hparse options]

/-- A component whose shape is declared is documented by that shape's members. -/
theorem assemble_of_declared {file : File} {options : Options}
    {component : Component} {name : String} {source : ShapeSource}
    (hselected : (file.rawDocument options).selected? options = some component)
    (hprops : component.props = some name)
    (hdeclared : lastShape? file.statements name = some source) :
    ∃ comment, ((file.rawDocument options).assemble options).documentation =
      .document (component.document options
        (PropShape.props options (file.rawDocument options).defaults
          ⟨name, (resolveShape file (ShapeTable.ofStatements file.statements)
            name).members, comment⟩)) := by
  obtain ⟨comment, hshape⟩ := rawDocument_shape?_eq_some options hdeclared
  exact ⟨comment, by simp [RawDocument.assemble, hselected, hprops, hshape]⟩

/--
No prop is lost or invented. Where the documented component names a declared
shape, a name is documented exactly if the shape or one that it reaches declares
it plainly, in the last declaration of that shape's name. No name is listed
twice, and the shape's own names stand in front in the order of their first
occurrence. The bound on resolution is not what ends it.
-/
theorem documented_names_are_reachable_names
    {options : Options} {path text : String} {file : File}
    {document : Document} {diagnostics : List Diagnostic}
    {component : Component} {shapeName : String} {source : ShapeSource}
    (hparse : File.parse? path text = some file)
    (hgenerate : generate options path text =
      .ok ⟨.document document, diagnostics⟩)
    (hselected : (file.rawDocument options).selected? options = some component)
    (hprops : component.props = some shapeName)
    (hdeclared : lastShape? file.statements shapeName = some source) :
    (∀ name, name ∈ document.props.keys ↔
      ∃ ancestor declared,
        Reaches (lastShape? file.statements) shapeName ancestor ∧
        lastShape? file.statements ancestor = some declared ∧
        name ∈ declared.ownNames) ∧
    document.props.keys.Nodup ∧
    (∃ inherited, document.props.keys = source.ownNames.eraseDups ++ inherited ∧
      ∀ name ∈ inherited, name ∉ source.ownNames) ∧
    ∀ bound, (ShapeTable.ofStatements file.statements).size < bound →
      resolveUpTo (ShapeTable.ofStatements file.statements) (ownMembers file)
          bound shapeName [] =
        resolveShape file (ShapeTable.ofStatements file.statements) shapeName := by
  have htable := get?_ofStatements file.statements
  have hname : (ShapeTable.ofStatements file.statements).get? shapeName =
      some source := by rw [htable, hdeclared]
  obtain ⟨comment, hassembled⟩ := assemble_of_declared hselected hprops hdeclared
  have hkeys : document.props = PropShape.props options
      (file.rawDocument options).defaults ⟨shapeName, (resolveShape file
        (ShapeTable.ofStatements file.statements) shapeName).members, comment⟩ := by
    rw [generate_of_parse hparse, Except.ok.injEq] at hgenerate
    rw [hgenerate] at hassembled
    exact congrArg Document.props (Documentation.document.inj hassembled)
  rw [hkeys]
  refine ⟨?_, OrderedMap.keys_ofList_nodup _, ?_, ?_⟩
  · intro name
    rw [keys_props, List.mem_eraseDups, ← htable]
    exact mem_namesOf_resolveShape_iff hname
  · obtain ⟨inherited, hmembers⟩ :=
      resolveShape_members_eq_append file hname
    refine ⟨((namesOf inherited).removeAll source.ownNames).eraseDups, ?_, ?_⟩
    · rw [keys_props, hmembers, namesOf_append, namesOf_ownMembers,
        List.eraseDups_append]
    · intro name hmem
      rw [List.mem_eraseDups] at hmem
      simpa [List.removeAll] using (List.mem_filter.mp hmem).2
  · intro bound hbound
    exact resolveUpTo_eq_of_size_lt _ shapeName hbound (Nat.lt_succ_self _)

/--
A cycle, a shape that is its own base, a diamond, an unknown base, a computed
key and a repeated name.
-/
def tangledShapes : String :=
  "class W extends Component<A>\x7b\x7d\n" ++
  "interface A extends B,D,M\x7bx:1;y():2;x:3\x7d\n" ++
  "interface B extends A,D\x7bz:4;[k]:5\x7d\n" ++
  "interface D extends D\x7bw?:6;x:7\x7d"

theorem documented_names_of_tangledShapes :
    ∃ file document diagnostics,
      File.parse? "W.tsx" tangledShapes = some file ∧
      generate Options.default "W.tsx" tangledShapes =
        .ok ⟨.document document, diagnostics⟩ ∧
      document.props.keys = ["x", "y", "z", "w"] ∧
      ∀ name, name ∈ document.props.keys ↔
        ∃ ancestor declared,
          Reaches (lastShape? file.statements) "A" ancestor ∧
          lastShape? file.statements ancestor = some declared ∧
          name ∈ declared.ownNames := by
  -- one evaluation of the parser answers all three questions
  have hparsed : (File.parse? "W.tsx" tangledShapes).map (fun file =>
      ((file.rawDocument .default).selected? .default,
        (lastShape? file.statements "A").map ShapeSource.ownNames,
        ((file.rawDocument .default).assemble .default).documentation.propNames?)) =
      some (some ⟨"W", .classBased, some "Component", some "A", ""⟩,
        some ["x", "y", "x"], some ["x", "y", "z", "w"]) := by
    decide +kernel
  cases hparse : File.parse? "W.tsx" tangledShapes with
  | none => simp [hparse] at hparsed
  | some file =>
      simp only [hparse, Option.map_some, Option.some.injEq, Prod.mk.injEq] at hparsed
      obtain ⟨hselected, hdeclared, hkeys⟩ := hparsed
      obtain ⟨source, hsource, _⟩ := Option.map_eq_some_iff.mp hdeclared
      have hgenerate := generate_of_parse hparse .default
      cases hassembly : (file.rawDocument .default).assemble .default with
      | mk documentation diagnostics =>
          cases documentation with
          | document document =>
              rw [hassembly] at hgenerate hkeys
              exact ⟨file, document, diagnostics, rfl, hgenerate,
                Option.some.inj hkeys,
                (documented_names_are_reachable_names hparse hgenerate hselected
                  rfl hsource).1⟩
          | empty => simp [hassembly, Documentation.propNames?] at hkeys
          | absent => simp [hassembly, Documentation.propNames?] at hkeys

end ComponentDocs
