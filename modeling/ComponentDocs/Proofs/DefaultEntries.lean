import ComponentDocs.Proofs.Composition

/-!
Which entry gives a prop its default value.

The entries of all `defaultProps` initializers are read one after the other, and
those whose text is `undefined` are passed over. A name therefore has the text of
its last entry that says something else, and keeps the place of the first such
entry; an `undefined` that comes later takes nothing back.
-/

namespace ComponentDocs

open Source

/-! ### Entries and initializers -/

/-- The name and the text of an entry, if both can be read. -/
def Source.Entry.reading? (source : String) : Entry → Option (String × String)
  | .spread _ => none
  | .property key value => do
      let name ← key.plainName?
      let text ← valueText source value
      some (name, text)

/-- The entries of an object that can be read. -/
def Source.Expr.readings (source : String) (initializer : Expr) :
    List (String × String) :=
  match initializer.core with
  | .object _ entries => entries.filterMap (Entry.reading? source)
  | _ => []

/-- Whether an entry says something else than `undefined`. -/
def isDefined (entry : String × String) : Bool :=
  entry.2 ≠ "undefined"

/-- The default values that an initializer gives on its own. -/
def Source.Expr.definedValues (source : String) (initializer : Expr) :
    OrderedMap String String :=
  OrderedMap.ofList ((initializer.readings source).filter isDefined)

/-- The initializer of a static `defaultProps` field. -/
def Source.ClassMember.defaults? : ClassMember → Option Expr
  | .field true _ key _ value =>
      if key.staticName? = some "defaultProps" then value else none
  | _ => none

/-- The `defaultProps` initializers that a visit comes upon. -/
def Visit.initializers : Visit → List Expr
  | .classNode _ value =>
      if value.name.isSome then value.members.filterMap ClassMember.defaults?
      else []
  | .expression value => (value.assignedDefaults?.map Prod.snd).toList
  | _ => []

/-- The `defaultProps` initializers of a file, in the order of the walk. -/
def Source.File.initializers (file : File) : List Expr :=
  (visitsOf .file file.statements).flatMap Visit.initializers

/-- The entries of these that can be read, in the same order. -/
def Source.File.defaultEntries (file : File) : List (String × String) :=
  file.initializers.flatMap (Expr.readings file.text)

/-- The texts of the entries of a name. -/
def Source.File.defaultTexts (file : File) (name : String) : List String :=
  (file.defaultEntries.filter fun entry => entry.1 = name).map Prod.snd

/-! ### One initializer -/

/-- What is kept of an entry is what can be read and is not `undefined`. -/
theorem EntryOutcome.kept_of (source : String) (entry : Entry) :
    (match EntryOutcome.of source entry with
      | .kept name value => some (name, value)
      | _ => none) = (entry.reading? source).filter isDefined := by
  cases entry with
  | spread value => rfl
  | property key value =>
      cases hname : key.plainName? with
      | none => simp [EntryOutcome.of, Entry.reading?, hname]
      | some name =>
          cases htext : valueText source value with
          | none => simp [EntryOutcome.of, Entry.reading?, hname, htext]
          | some text =>
              by_cases hundefined : text = "undefined"
              · simp [EntryOutcome.of, Entry.reading?, hname, htext, hundefined,
                  Option.filter, isDefined]
              · simp [EntryOutcome.of, Entry.reading?, hname, htext, hundefined,
                  Option.filter, isDefined]

theorem Defaults.read_values (source owner : String) (initializer : Expr) :
    (Defaults.read source owner initializer).values =
      initializer.definedValues source := by
  cases hcore : initializer.core with
  | object span entries =>
      simp only [Defaults.read, Expr.definedValues, Expr.readings, hcore,
        Defaults.ofOutcomes, List.filterMap_map, List.filter_filterMap]
      congr 2
      funext entry
      exact EntryOutcome.kept_of source entry
  | _ =>
      simp only [Defaults.read, Expr.definedValues, Expr.readings, hcore]
      rfl

/-- An initializer makes one map of default values, whoever its owner is. -/
theorem Extraction.defaultFindings_defaults (source owner : String)
    (initializer : Expr) :
    (defaultFindings source owner initializer).filterMap Finding.defaults? =
      [initializer.definedValues source] := by
  rw [← Defaults.read_values source owner]
  simp [defaultFindings, Finding.defaults?, Function.comp_def]

theorem Extraction.memberFindings_defaults (source owner : String)
    (member : ClassMember) :
    (memberFindings source owner member).filterMap Finding.defaults? =
      member.defaults?.toList.map (Expr.definedValues source) := by
  unfold memberFindings
  split
  · rename_i key _ value
    rw [ClassMember.defaults?]
    split
    · cases value with
      | some value => exact defaultFindings_defaults source owner value
      | none => rfl
    · rfl
  · rename_i hother
    have hnone : member.defaults? = none := by
      unfold ClassMember.defaults?
      split
      · exact absurd rfl (hother _ _ _ _)
      · rfl
    rw [hnone]
    rfl

/-! ### All initializers -/

theorem Extraction.ofVisit_defaults (it : Extraction) (visit : Visit) :
    (it.ofVisit visit).filterMap Finding.defaults? =
      visit.initializers.map (Expr.definedValues it.file.text) := by
  cases visit with
  | classNode anchor value =>
      cases hname : value.name with
      | none => simp [ofVisit, ofClass, Visit.initializers, hname, Finding.defaults?]
      | some name =>
          have hmembers : (value.members.flatMap (memberFindings it.file.text
              name)).filterMap Finding.defaults? =
              (value.members.filterMap ClassMember.defaults?).map
                (Expr.definedValues it.file.text) := by
            rw [List.filterMap_flatMap, List.filterMap_eq_flatMap_toList,
              List.map_flatMap]
            simp only [memberFindings_defaults]
          simp only [ofVisit, ofClass, Visit.initializers, hname,
            List.filterMap_append, hmembers]
          exact List.append_nil _
  | function anchor span value =>
      exact it.ofFunction_apart Finding.defaults?_apartFromComponents _ _ _
  | bindings anchor span values =>
      rw [ofVisit, List.filterMap_flatMap]
      simp only [it.ofDeclarator_apart Finding.defaults?_apartFromComponents]
      simp [Visit.initializers]
  | expression value =>
      rw [ofVisit, ofExpression_eq, Visit.initializers]
      cases value.assignedDefaults? with
      | none => rfl
      | some assigned => exact defaultFindings_defaults _ _ _

theorem OrderedMap.ofList_flatMap_ofList {κ α β : Type} [DecidableEq κ]
    (parts : List β) (entriesOf : β → List (κ × α)) :
    ofList (parts.flatMap fun part => (ofList (entriesOf part)).entries) =
      ofList (parts.flatMap entriesOf) := by
  induction parts using List.reverseRecOn with
  | nil => rfl
  | append_singleton parts part ih =>
      rw [List.flatMap_append, List.flatMap_append, List.flatMap_singleton,
        List.flatMap_singleton, ofList, insertAll_append, ← ofList, ih,
        insertAll_entries_ofList (keys_ofList_nodup _), ofList, ofList,
        insertAll_append]

/-- The default values of a file are its entries, those with `undefined` left out. -/
theorem rawDocument_defaults (file : File) (options : Options) :
    (file.rawDocument options).defaults =
      OrderedMap.ofList (file.defaultEntries.filter isDefined) := by
  obtain ⟨text, statements, docs⟩ := file
  rw [File.rawDocument, RawDocument.defaults_ofFindings,
    findings_filterMap Finding.defaults?_apartFromShapes,
    List.filterMap_flatMap]
  simp only [Extraction.ofVisit_defaults]
  rw [← List.map_flatMap, List.flatMap_map]
  simp only [Expr.definedValues]
  rw [OrderedMap.ofList_flatMap_ofList, File.defaultEntries, List.filter_flatMap]
  rfl

theorem get?_rawDocument_defaults (file : File) (options : Options)
    (name : String) :
    (file.rawDocument options).defaults.get? name =
      ((file.defaultTexts name).filter (· ≠ "undefined")).getLast? := by
  have htexts : (file.defaultTexts name).filter (· ≠ "undefined") =
      ((file.defaultEntries.filter isDefined).filter
        fun entry => entry.1 = name).map Prod.snd := by
    rw [File.defaultTexts, List.filter_map, List.filter_comm]
    rfl
  rw [rawDocument_defaults, OrderedMap.get?_ofList_eq_getLast?, htexts]

/--
The last defined entry decides. Of all entries of a name that can be read, in all
the `defaultProps` initializers that the walk comes upon, the default value is
the text of the last one that is not `undefined`: that of the very last one if it
is not, and none exactly if all of them are. The names stand in the order of
their first entries that are not `undefined`.
-/
theorem last_defined_entry_decides (file : File) (options : Options) :
    (file.rawDocument options).defaults.keys =
      ((file.defaultEntries.filter isDefined).map Prod.fst).eraseDups ∧
    ∀ name,
      (file.rawDocument options).defaults.get? name =
        ((file.defaultTexts name).filter (· ≠ "undefined")).getLast? ∧
      (∀ text, (file.defaultTexts name).getLast? = some text →
        text ≠ "undefined" →
          (file.rawDocument options).defaults.get? name = some text) ∧
      ((file.rawDocument options).defaults.get? name = none ↔
        ∀ text ∈ file.defaultTexts name, text = "undefined") := by
  refine ⟨?_, ?_⟩
  · rw [rawDocument_defaults, OrderedMap.keys_ofList]
  · intro name
    rw [get?_rawDocument_defaults]
    refine ⟨rfl, ?_, ?_⟩
    · intro text hlast hdefined
      obtain ⟨before, htexts⟩ := List.getLast?_eq_some_iff.mp hlast
      rw [htexts, List.filter_append]
      simp [hdefined]
    · rw [List.getLast?_eq_none_iff, List.filter_eq_nil_iff]
      simp

/-- Two names whose last entries are `undefined`, in two objects and in one. -/
def withdrawnDefaults : String :=
  "class A \x7b static defaultProps = \x7b a: 1 \x7d \x7d\n" ++
    "class B \x7b static defaultProps =\n" ++
    "  \x7b a: undefined, b: 2, b: undefined \x7d \x7d"

theorem withdrawnDefaults_keep_their_values :
    ∃ file, File.parse? "C.tsx" withdrawnDefaults = some file ∧
      file.defaultTexts "a" = ["1", "undefined"] ∧
      file.defaultTexts "b" = ["2", "undefined"] ∧
      (file.rawDocument .default).defaults = ⟨[("a", "1"), ("b", "2")]⟩ := by
  have hparsed : (File.parse? "C.tsx" withdrawnDefaults).map (fun file =>
      (file.defaultTexts "a", file.defaultTexts "b",
        (file.rawDocument .default).defaults)) =
      some (["1", "undefined"], ["2", "undefined"],
        ⟨[("a", "1"), ("b", "2")]⟩) := by
    decide +kernel
  obtain ⟨file, hparse, hfacts⟩ := Option.map_eq_some_iff.mp hparsed
  obtain ⟨hfirst, hrest⟩ := Prod.mk.inj hfacts
  exact ⟨file, hparse, hfirst, Prod.mk.inj hrest⟩

end ComponentDocs
