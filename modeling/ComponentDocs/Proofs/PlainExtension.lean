import ComponentDocs.Proofs.DocumentedProps
import ComponentDocs.Proofs.PathResolution

/-!
A shape that only extends another one.

Where an interface adds nothing to its only base, it resolves to the members of
the base, each name once. So both document the same props in the same order. But
repeated names are treated in opposite ways: of the declarations in one body the
last one is documented, and of those that come through a base the first one is
kept. A name that the base repeats in its own body is therefore documented by
its last declaration for the base, and by its first one for the extension.
-/

namespace ComponentDocs

open Source

/-! ### The first and the last member of a name -/

/-- The first member of a name. -/
def firstNamed (members : List PropMember) (name : String) : Option PropMember :=
  members.find? (fun member => member.name = name)

/-- The last member of a name. -/
def lastNamed (members : List PropMember) (name : String) : Option PropMember :=
  members.reverse.find? (fun member => member.name = name)

section Named

variable {members : List PropMember} {name : String}

theorem firstNamed_isSome_iff :
    (firstNamed members name).isSome ↔ name ∈ namesOf members := by
  simp [firstNamed, mem_namesOf]

theorem lastNamed_isSome_iff :
    (lastNamed members name).isSome ↔ name ∈ namesOf members := by
  simp [lastNamed, mem_namesOf]

theorem firstNamed_eq_none_iff :
    firstNamed members name = none ↔ name ∉ namesOf members := by
  rw [← firstNamed_isSome_iff, Option.not_isSome_iff_eq_none]

theorem lastNamed_eq_none_iff :
    lastNamed members name = none ↔ name ∉ namesOf members := by
  rw [← lastNamed_isSome_iff, Option.not_isSome_iff_eq_none]

theorem firstNamed_cons_of_ne {member : PropMember} (hname : member.name ≠ name) :
    firstNamed (member :: members) name = firstNamed members name := by
  simp [firstNamed, hname]

/-- Members that are added stand behind those of their name. -/
theorem firstNamed_addMissing (members inherited : List PropMember)
    (name : String) :
    firstNamed (addMissing members inherited) name =
      (firstNamed members name).or (firstNamed inherited name) := by
  induction inherited generalizing members with
  | nil => simp [addMissing_nil, firstNamed]
  | cons member rest ih =>
      rw [addMissing_cons, ih]
      by_cases hname : member.name = name
      · by_cases hmem : member.name ∈ namesOf members
        · obtain ⟨first, hfirst⟩ := Option.isSome_iff_exists.mp
            (firstNamed_isSome_iff.mpr (hname ▸ hmem))
          simp [hmem, hfirst]
        · rw [if_neg hmem]
          simp [firstNamed, List.find?_append, hname]
      · rw [firstNamed_cons_of_ne hname]
        split
        · rfl
        · simp [firstNamed, List.find?_append, hname]

/-- Of the members of a name that is missing only the first one is added. -/
theorem lastNamed_addMissing (members inherited : List PropMember)
    (name : String) :
    lastNamed (addMissing members inherited) name =
      (lastNamed members name).or (firstNamed inherited name) := by
  induction inherited generalizing members with
  | nil => simp [addMissing_nil, firstNamed]
  | cons member rest ih =>
      rw [addMissing_cons, ih]
      by_cases hname : member.name = name
      · by_cases hmem : member.name ∈ namesOf members
        · obtain ⟨last, hlast⟩ := Option.isSome_iff_exists.mp
            (lastNamed_isSome_iff.mpr (hname ▸ hmem))
          simp [hmem, hlast]
        · have hnone : lastNamed members name = none :=
            lastNamed_eq_none_iff.mpr (hname ▸ hmem)
          rw [if_neg hmem, hnone]
          simp [firstNamed, lastNamed, hname]
      · rw [firstNamed_cons_of_ne hname]
        split
        · rfl
        · simp [lastNamed, hname]

/-- Added members hide none that was there. -/
theorem named_addMissing_of_mem (inherited : List PropMember)
    (hname : name ∈ namesOf members) :
    firstNamed (addMissing members inherited) name = firstNamed members name ∧
      lastNamed (addMissing members inherited) name = lastNamed members name := by
  obtain ⟨first, hfirst⟩ := Option.isSome_iff_exists.mp
    (firstNamed_isSome_iff.mpr hname)
  obtain ⟨last, hlast⟩ := Option.isSome_iff_exists.mp
    (lastNamed_isSome_iff.mpr hname)
  constructor
  · rw [firstNamed_addMissing, hfirst, Option.some_or]
  · rw [lastNamed_addMissing, hlast, Option.some_or]

/-- A name that was missing is added once. -/
theorem firstNamed_eq_lastNamed_of_not_mem (inherited : List PropMember)
    (hname : name ∉ namesOf members) :
    firstNamed (addMissing members inherited) name =
      lastNamed (addMissing members inherited) name := by
  rw [firstNamed_addMissing, lastNamed_addMissing,
    firstNamed_eq_none_iff.mpr hname, lastNamed_eq_none_iff.mpr hname]

/-- Filtering repeated names does not change which names come when. -/
theorem eraseDups_namesOf_addMissing (members inherited : List PropMember) :
    (namesOf (addMissing members inherited)).eraseDups =
      (namesOf members ++ namesOf inherited).eraseDups := by
  induction inherited generalizing members with
  | nil => simp [addMissing_nil, namesOf]
  | cons member rest ih =>
      rw [addMissing_cons, ih]
      by_cases hmem : member.name ∈ namesOf members
      · have hgone : (member.name :: namesOf rest).removeAll (namesOf members) =
            (namesOf rest).removeAll (namesOf members) := by
          simp [List.removeAll, hmem]
        rw [if_pos hmem, List.eraseDups_append, List.eraseDups_append, ← hgone]
        rfl
      · rw [if_neg hmem, namesOf_append]
        simp [namesOf]

end Named

/-! ### The members of an extension -/

section Detour

variable {table : ShapeTable} {own : ShapeSource → List PropMember}
variable {derived base : String} {empty source : ShapeSource}

/--
While a base is being resolved, its plain extension has nothing to give: it only
leads back. So it makes no difference whether the extension is on the path too.
-/
theorem membersOnPath_detour (hderived : table.get? derived = some empty)
    (hempty : own empty = []) (hbases : empty.bases = [base])
    {path detour : List String} (hbase : base ∈ path)
    (hdetour : ∀ name, name ∈ detour ↔ name = derived ∨ name ∈ path)
    (name : String) :
    membersOnPath table own detour name = membersOnPath table own path name := by
  -- Each step puts a new name on both paths, so the unvisited ones get fewer.
  induction hsize : table.unvisited path using Nat.strongRecOn
    generalizing path detour name with
  | ind size ih =>
      by_cases hname : name = derived
      · -- The extension gives nothing on the detour, and off it only its base,
        -- which is on the path.
        subst hname
        rw [membersOnPath_again ((hdetour name).mpr (Or.inl rfl))]
        by_cases hpath : name ∈ path
        · rw [membersOnPath_again hpath]
        · rw [membersOnPath_fresh hderived hpath, hbases, hempty]
          simp [membersOnPath_again (List.mem_cons_of_mem name hbase),
            addMissing_nil]
      · by_cases hpath : name ∈ path
        · rw [membersOnPath_again hpath,
            membersOnPath_again ((hdetour name).mpr (Or.inr hpath))]
        · have hoff : name ∉ detour := by
            rw [hdetour]
            exact not_or.mpr ⟨hname, hpath⟩
          cases hshape : table.get? name with
          | none =>
              rw [membersOnPath_unknown hshape, membersOnPath_unknown hshape]
          | some shape =>
              have hsmaller := unvisited_cons_lt hshape hpath
              have hsame : membersOnPath table own (name :: detour) =
                  membersOnPath table own (name :: path) := by
                funext other
                refine ih _ (hsize ▸ hsmaller) (List.mem_cons_of_mem name hbase)
                  ?_ other rfl
                intro visited
                simp only [List.mem_cons, hdetour]
                exact or_left_comm
              rw [membersOnPath_fresh hshape hoff,
                membersOnPath_fresh hshape hpath, hsame]

/-- A plain extension has the members of its base, each name once. -/
theorem resolveUpTo_members_of_plain_extension
    (hderived : table.get? derived = some empty) (hempty : own empty = [])
    (hbases : empty.bases = [base]) (hbase : table.get? base = some source)
    (hother : base ≠ derived) :
    (resolveUpTo table own (table.size + 1) derived []).members =
      addMissing [] (resolveUpTo table own (table.size + 1) base []).members := by
  have hdetour : membersOnPath table own [base, derived] =
      membersOnPath table own [base] := by
    funext name
    refine membersOnPath_detour hderived hempty hbases List.mem_cons_self ?_ name
    intro visited
    simp [or_comm]
  have hsame : membersOnPath table own [derived] base =
      membersOnPath table own [] base := by
    rw [membersOnPath_fresh hbase (by simpa using hother),
      membersOnPath_fresh hbase List.not_mem_nil, hdetour]
  rw [resolveUpTo_members_eq_membersOnPath, resolveUpTo_members_eq_membersOnPath,
    membersOnPath_fresh hderived List.not_mem_nil, hbases, hempty,
    List.foldl_cons, List.foldl_nil, hsame]

end Detour

/-! ### The documents of an extension and of its base -/

/-- The documentation of a name is that of its last member. -/
theorem get?_props (options : Options) (defaults : OrderedMap String String)
    (shape : PropShape) (name : String) :
    (shape.props options defaults).get? name =
      (lastNamed shape.members name).map (PropMember.document options defaults) := by
  rw [PropShape.props, OrderedMap.get?_ofList, ← List.map_reverse,
    List.find?_map, Option.map_map]
  rfl

/-- An extension that has the members of a base, each name once. -/
theorem props_of_filtered_members (options : Options)
    (defaults : OrderedMap String String) {shape base : PropShape}
    (hmembers : shape.members = addMissing [] base.members) :
    (shape.props options defaults).keys = (base.props options defaults).keys ∧
      ∀ name, (shape.props options defaults).get? name =
        (firstNamed base.members name).map (PropMember.document options defaults) := by
  constructor
  · rw [keys_props, keys_props, hmembers, eraseDups_namesOf_addMissing]
    rfl
  · intro name
    rw [get?_props, hmembers, lastNamed_addMissing]
    rfl

/-- A component is selected, beside the shapes and default values of a file. -/
structure RawDocument.Selects (raw : RawDocument) (file : File)
    (options : Options) (component : Component) : Prop where
  selected : raw.selected? options = some component
  shapes : raw.shapes = (file.rawDocument options).shapes
  defaults : raw.defaults = (file.rawDocument options).defaults

/-- A component whose shape is declared is documented by that shape's members. -/
theorem RawDocument.Selects.documentation {raw : RawDocument} {file : File}
    {options : Options} {component : Component} {name : String}
    {source : ShapeSource} (hselects : raw.Selects file options component)
    (hprops : component.props = some name)
    (hdeclared : lastShape? file.statements name = some source) :
    ∃ shape : PropShape,
      shape.members = (resolveShape file (ShapeTable.ofStatements file.statements)
        name).members ∧
      (raw.assemble options).documentation = .document (component.document options
        (shape.props options (file.rawDocument options).defaults)) := by
  obtain ⟨comment, hshape⟩ := rawDocument_shape?_eq_some options hdeclared
  have hfound : raw.shape? name = (file.rawDocument options).shape? name := by
    rw [RawDocument.shape?, hselects.shapes, RawDocument.shape?]
  refine ⟨⟨name, _, comment⟩, rfl, ?_⟩
  simp only [RawDocument.assemble, hselects.selected, hprops, Option.bind_some,
    hfound, hshape, hselects.defaults]

section Extension

variable {file : File} {derived base : String} {empty source : ShapeSource}

theorem resolveShape_members_of_plain_extension
    (hderived : lastShape? file.statements derived = some empty)
    (hempty : empty.ownNames = []) (hbases : empty.bases = [base])
    (hbase : lastShape? file.statements base = some source)
    (hother : base ≠ derived) :
    (resolveShape file (ShapeTable.ofStatements file.statements) derived).members =
      addMissing [] (resolveShape file (ShapeTable.ofStatements file.statements)
        base).members := by
  rw [← get?_ofStatements] at hderived hbase
  refine resolveUpTo_members_of_plain_extension hderived ?_ hbases hbase hother
  rw [← namesOf_ownMembers file] at hempty
  exact List.map_eq_nil_iff.mp hempty

/-- A shape starts with its own members, and only missing ones are added. -/
theorem resolveShape_members_eq_addMissing
    (hbase : lastShape? file.statements base = some source) :
    ∃ inherited, (resolveShape file (ShapeTable.ofStatements file.statements)
      base).members = addMissing (ownMembers file source) inherited := by
  rw [← get?_ofStatements] at hbase
  exact (resolveUpTo_inherits (ownMembers file) hbase
    (Nat.lt_succ_self _)).members_eq_addMissing

/--
Extending without adding. The component of a plain extension has the props of
its base under the same names and in the same order. A prop that the base does
not declare itself is documented alike. One that it does is documented by its
first declaration in the base's body for the extension, and by its last one for
the base; so all props are the same exactly if no name has two declarations
there that are documented differently.
-/
theorem plain_extension_documents_first_declarations
    {options : Options} {component : Component} {raw rawBase : RawDocument}
    (hderived : lastShape? file.statements derived = some empty)
    (hempty : empty.ownNames = []) (hbases : empty.bases = [base])
    (hbase : lastShape? file.statements base = some source)
    (hother : base ≠ derived)
    (hraw : raw.Selects file options { component with props := some derived })
    (hrawBase : rawBase.Selects file options { component with props := some base }) :
    ∃ document baseDocument,
      (raw.assemble options).documentation = .document document ∧
      (rawBase.assemble options).documentation = .document baseDocument ∧
      document.props.keys = baseDocument.props.keys ∧
      (∀ name, name ∉ source.ownNames →
        document.props.get? name = baseDocument.props.get? name) ∧
      (∀ name ∈ source.ownNames,
        document.props.get? name = (firstNamed (ownMembers file source) name).map
          (PropMember.document options (file.rawDocument options).defaults) ∧
        baseDocument.props.get? name = (lastNamed (ownMembers file source) name).map
          (PropMember.document options (file.rawDocument options).defaults)) ∧
      (document.props = baseDocument.props ↔ ∀ name ∈ source.ownNames,
        (firstNamed (ownMembers file source) name).map
            (PropMember.document options (file.rawDocument options).defaults) =
          (lastNamed (ownMembers file source) name).map
            (PropMember.document options (file.rawDocument options).defaults)) := by
  obtain ⟨shape, hshape, hdocument⟩ := hraw.documentation rfl hderived
  obtain ⟨baseShape, hbaseShape, hbaseDocument⟩ := hrawBase.documentation rfl hbase
  obtain ⟨inherited, hmembers⟩ := resolveShape_members_eq_addMissing hbase
  rw [resolveShape_members_of_plain_extension hderived hempty hbases hbase hother,
    ← hbaseShape] at hshape
  refine ⟨_, _, hdocument, hbaseDocument, ?_⟩
  dsimp only [Component.document]
  generalize (file.rawDocument options).defaults = defaults
  obtain ⟨hkeys, hfirst⟩ := props_of_filtered_members options defaults hshape
  have hlast := get?_props options defaults baseShape
  rw [hbaseShape, hmembers] at hfirst hlast
  rw [← namesOf_ownMembers file source]
  have hinherited : ∀ name, name ∉ namesOf (ownMembers file source) →
      (shape.props options defaults).get? name =
        (baseShape.props options defaults).get? name := by
    intro name hname
    rw [hfirst, hlast, firstNamed_eq_lastNamed_of_not_mem inherited hname]
  have hown : ∀ name ∈ namesOf (ownMembers file source),
      (shape.props options defaults).get? name =
          (firstNamed (ownMembers file source) name).map
            (PropMember.document options defaults) ∧
        (baseShape.props options defaults).get? name =
          (lastNamed (ownMembers file source) name).map
            (PropMember.document options defaults) := by
    intro name hname
    have hnamed := named_addMissing_of_mem inherited hname
    rw [hfirst, hlast, hnamed.1, hnamed.2]
    exact ⟨rfl, rfl⟩
  refine ⟨hkeys, hinherited, hown, ?_, ?_⟩
  · intro hprops name hname
    rw [← (hown name hname).1, ← (hown name hname).2, hprops]
  · intro hsame
    refine OrderedMap.eq_of_keys_of_get? (OrderedMap.keys_ofList_nodup _) hkeys ?_
    intro name
    by_cases hname : name ∈ namesOf (ownMembers file source)
    · rw [(hown name hname).1, (hown name hname).2]
      exact hsame name hname
    · exact hinherited name hname

end Extension

/-- A class that is a component. -/
def someClass : Component := ⟨"C", .classBased, some "Component", none, ""⟩

/-- A file's findings, with a class that names a shape for its only component. -/
def Source.File.withClassOf (file : File) (name : String) : RawDocument :=
  { file.rawDocument .default with
    components := [{ someClass with props := some name }] }

/-- A base in a cycle with its plain extension, and with a base of its own. -/
def extendedCycle : String :=
  "interface B extends D,A\x7bx:1;y():2\x7d\ninterface A\x7by:3;z:4\x7d\n" ++
  "interface D extends B\x7b[k]:5\x7d"

theorem plain_extension_in_extendedCycle :
    ∃ file document baseDocument,
      File.parse? "C.tsx" extendedCycle = some file ∧
      ((file.withClassOf "D").assemble .default).documentation =
        .document document ∧
      ((file.withClassOf "B").assemble .default).documentation =
        .document baseDocument ∧
      baseDocument.props.keys = ["x", "y", "z"] ∧
      document.props = baseDocument.props := by
  have hparsed : (File.parse? "C.tsx" extendedCycle).map (fun file =>
      ((lastShape? file.statements "D").map (fun source =>
          (source.ownNames, source.bases)),
        (lastShape? file.statements "B").map (fun source =>
          decide (∀ name ∈ source.ownNames,
            (firstNamed (ownMembers file source) name).map (PropMember.document
                .default (file.rawDocument .default).defaults) =
              (lastNamed (ownMembers file source) name).map (PropMember.document
                .default (file.rawDocument .default).defaults))),
        ((file.withClassOf "B").assemble .default).documentation.propNames?)) =
      some (some ([], ["B"]), some true, some ["x", "y", "z"]) := by
    decide +kernel
  obtain ⟨file, hparse, hfacts⟩ := Option.map_eq_some_iff.mp hparsed
  simp only [Prod.mk.injEq] at hfacts
  obtain ⟨hderived, hbase, hnames⟩ := hfacts
  obtain ⟨empty, hempty, hplain⟩ := Option.map_eq_some_iff.mp hderived
  obtain ⟨source, hsource, hsame⟩ := Option.map_eq_some_iff.mp hbase
  obtain ⟨hown, hbases⟩ := Prod.mk.inj hplain
  have hselects : ∀ name, (file.withClassOf name).Selects file .default
      { someClass with props := some name } := fun _ => ⟨rfl, rfl, rfl⟩
  obtain ⟨document, baseDocument, hdocument, hbaseDocument, _, _, _, hequal⟩ :=
    plain_extension_documents_first_declarations hempty hown hbases hsource
      (by decide) (hselects "D") (hselects "B")
  rw [hbaseDocument] at hnames
  exact ⟨file, document, baseDocument, hparse, hdocument, hbaseDocument,
    Option.some.inj hnames, hequal.mpr (of_decide_eq_true hsame)⟩

/-- A base that declares a method twice, and its plain extension. -/
def overloadedBase : String :=
  "interface B\x7bf(a:1):2;f(b:3):4\x7d\ninterface D extends B\x7b\x7d"

/-- The names of the documented props, with their types. -/
def Documentation.types? : Documentation → Option (List (String × String))
  | .document value => some (value.props.entries.map fun entry =>
      (entry.1, entry.2.typeName))
  | _ => none

/-- An extension that adds nothing does not document the same as its base. -/
theorem plain_extension_of_overloadedBase_differs :
    ∃ file, File.parse? "C.tsx" overloadedBase = some file ∧
      ((lastShape? file.statements "D").map fun source =>
        (source.ownNames, source.bases)) = some ([], ["B"]) ∧
      ((file.withClassOf "D").assemble .default).documentation.types? =
        some [("f", "(a:1):2")] ∧
      ((file.withClassOf "B").assemble .default).documentation.types? =
        some [("f", "(b:3):4")] := by
  have hparsed : (File.parse? "C.tsx" overloadedBase).map (fun file =>
      decide (((lastShape? file.statements "D").map fun source =>
          (source.ownNames, source.bases)) = some ([], ["B"]) ∧
        ((file.withClassOf "D").assemble .default).documentation.types? =
          some [("f", "(a:1):2")] ∧
        ((file.withClassOf "B").assemble .default).documentation.types? =
          some [("f", "(b:3):4")])) = some true := by
    decide +kernel
  obtain ⟨file, hparse, hfacts⟩ := Option.map_eq_some_iff.mp hparsed
  exact ⟨file, hparse, of_decide_eq_true hfacts⟩

end ComponentDocs
