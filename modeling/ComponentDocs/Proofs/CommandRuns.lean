import ComponentDocs.Proofs.FileWriting
import ComponentDocs.Proofs.Rendering
import ComponentDocs.Run

/-!
What a run of the command emits, and how it ends.

Both are told from what becomes of each path on its own: `TextOf` has a rule for
each form of the emitted text, `EndsAs` counts the paths without documentation,
and `Emits` says what is left behind where the text goes. The main statement
holds for every list of paths, in which paths may be repeated.
-/

namespace ComponentDocs

/-- Whether there is documentation for the file at a path. -/
def isDocumented (options : Options) (files : Files) (path : String) : Bool :=
  (generateFile options files path).isOk

/-! ### The results of several paths -/

section Results

variable (options : Options) (files : Files) (paths : List String)

theorem documented_paths :
    (generateFiles options files paths).documented.map Prod.fst =
      paths.filter (isDocumented options files) := by
  induction paths with
  | nil => rfl
  | cons path paths ih =>
      cases hresult : generateFile options files path <;>
        simpa [generateFiles, Results.documented, isDocumented, hresult,
          Except.isOk, Except.toBool] using ih

theorem of_mem_documented {entry : String × Documentation}
    (hmem : entry ∈ (generateFiles options files paths).documented) :
    ∃ assembly, generateFile options files entry.1 = .ok assembly ∧
      entry.2 = assembly.documentation := by
  obtain ⟨⟨path, result⟩, hresult, hentry⟩ := List.mem_filterMap.mp hmem
  obtain ⟨path, _, hpair⟩ := List.mem_map.mp hresult
  obtain ⟨rfl, rfl⟩ := Prod.mk.inj hpair
  cases hfile : generateFile options files path with
  | error failure => simp [hfile] at hentry
  | ok assembly =>
      simp only [hfile, Option.some.injEq] at hentry
      subst hentry
      exact ⟨assembly, hfile, rfl⟩

theorem documented_length :
    (generateFiles options files paths).documented.length =
      paths.countP (isDocumented options files) := by
  rw [List.countP_eq_length_filter, ← documented_paths, List.length_map]

/-- A path is documented or it is not, at each of its places. -/
theorem countP_documented_add_countP :
    paths.countP (isDocumented options files) +
      (paths.countP fun path => !isDocumented options files path) =
        paths.length := by
  simpa using (paths.length_eq_countP_add_countP (isDocumented options files)).symm

theorem failed_eq :
    (generateFiles options files paths).failed =
      paths.countP fun path => !isDocumented options files path := by
  have hparts := countP_documented_add_countP options files paths
  rw [Results.failed, documented_length, generateFiles, List.length_map]
  omega

end Results

/-! ### The emitted text -/

/--
The text for some paths. There is none if no path is documented; a single path
has the text of its documentation; several have an object with a field for each
path that is documented, in the order in which the paths first come.
-/
inductive TextOf (options : Options) (files : Files) (layout : Json.Layout) :
    List String → Option String → Prop where
  | nothing {paths : List String}
      (hnone : ∀ path ∈ paths, isDocumented options files path = false) :
      TextOf options files layout paths none
  | alone {path : String} {assembly : Assembly}
      (hresult : generateFile options files path = .ok assembly) :
      TextOf options files layout [path]
        (some (assembly.documentation.render layout))
  | byPath {paths : List String} {fields : List (String × Json)}
      (hseveral : 2 ≤ paths.length)
      (hsome : ∃ path ∈ paths, isDocumented options files path = true)
      (hread : Json.read? (Json.render layout (.object fields)) =
        some (.object fields))
      (hnames : fields.map Prod.fst =
        (paths.filter (isDocumented options files)).eraseDups)
      (hvalues : ∀ field ∈ fields, ∃ assembly,
        generateFile options files field.1 = .ok assembly ∧
          field.2 = assembly.documentation.toJson) :
      TextOf options files layout paths
        (some (Json.render layout (.object fields)))

/-- The object by path of several documented paths. -/
theorem textOf_renderAll {options : Options} {files : Files} {paths : List String}
    (layout : Json.Layout) (hseveral : 2 ≤ paths.length)
    (hsome : ∃ path ∈ paths, isDocumented options files path = true) :
    TextOf options files layout paths
      (some (renderAll layout (generateFiles options files paths).documented)) := by
  let entries := (generateFiles options files paths).documented
  let fields := (OrderedMap.ofList entries).entries.map fun entry =>
    (entry.1, entry.2.toJson)
  have hplain : Json.Plain Json.maxDepth (.object fields) := by
    apply Json.Plain.object
    intro field hfield
    obtain ⟨entry, _, rfl⟩ := List.mem_map.mp hfield
    exact entry.2.toJson_plain 120
  have hnames : fields.map Prod.fst =
      (paths.filter (isDocumented options files)).eraseDups := by
    rw [← documented_paths, ← OrderedMap.keys_ofList, List.map_map]
    rfl
  refine .byPath hseveral hsome (Json.read?_render hplain layout) hnames ?_
  intro field hfield
  obtain ⟨entry, hentry, rfl⟩ := List.mem_map.mp hfield
  obtain ⟨assembly, hresult, hdocumentation⟩ :=
    of_mem_documented options files paths (OrderedMap.mem_of_mem_ofList hentry)
  exact ⟨assembly, hresult, congrArg Documentation.toJson hdocumentation⟩

theorem Command.text?_textOf (command : Command) (options : Options)
    (files : Files) :
    TextOf options files command.layout command.files
      (command.text? (generateFiles options files command.files)) := by
  have hpaths := documented_paths options files command.files
  rw [text?]
  split
  · rename_i hnothing
    rw [hnothing, List.map_nil, eq_comm, List.filter_eq_nil_iff] at hpaths
    exact .nothing fun path hpath => Bool.eq_false_iff.mpr (hpaths path hpath)
  · rename_i path documentation more hdocumented
    rw [hdocumented, List.map_cons] at hpaths
    have hpath : path ∈ command.files.filter (isDocumented options files) := by
      rw [← hpaths]
      exact List.mem_cons_self
    obtain ⟨hgiven, hok⟩ := List.mem_filter.mp hpath
    split
    · rename_i hone
      obtain ⟨only, honly⟩ := List.length_eq_one_iff.mp hone
      have hentry : (path, documentation) ∈
          (generateFiles options files command.files).documented := by
        rw [hdocumented]
        exact List.mem_cons_self
      obtain ⟨assembly, hresult, rfl⟩ :=
        of_mem_documented options files command.files hentry
      rw [honly, List.mem_singleton] at hgiven
      rw [honly, ← hgiven]
      exact .alone hresult
    · rename_i hmany
      have hseveral : 2 ≤ command.files.length := by
        have := List.length_pos_of_mem hgiven
        omega
      rw [← hdocumented]
      exact textOf_renderAll command.layout hseveral ⟨path, hgiven, hok⟩

/-! ### How a run ends -/

/--
A run over some paths ends well if all are documented, and otherwise tells how
many are not, of how many.
-/
structure EndsAs (options : Options) (files : Files) (paths : List String)
    (error : Option RunError) : Prop where
  succeeds_iff : error = none ↔
    ∀ path ∈ paths, isDocumented options files path = true
  fails : error ≠ none → error = some (.filesFailed
    (paths.countP fun path => !isDocumented options files path) paths.length)
  adds_up : ∀ failed total, error = some (.filesFailed failed total) →
    paths.countP (isDocumented options files) + failed = total

theorem Command.verdict_endsAs (command : Command) (options : Options)
    (files : Files) :
    EndsAs options files command.files
      (command.verdict (generateFiles options files command.files)) := by
  have hall : (command.files.countP fun path =>
      !isDocumented options files path) = 0 ↔
      ∀ path ∈ command.files, isDocumented options files path = true := by
    simp [List.countP_eq_zero]
  rw [verdict, failed_eq]
  split
  · rename_i hzero
    exact ⟨iff_of_true rfl (hall.mp hzero), fun h => absurd rfl h, by simp⟩
  · rename_i hsome
    refine ⟨iff_of_false (by simp) (mt hall.mpr hsome), fun _ => rfl, ?_⟩
    intro failed total herror
    obtain ⟨rfl, rfl⟩ := RunError.filesFailed.inj (Option.some.inj herror)
    exact countP_documented_add_countP options files command.files

/-! ### Where the text goes -/

/--
What a run in a tree leaves behind, by where a line goes: without a line
nothing changes; a line is printed; or it is all that the file at a path holds,
and no other file is touched.
-/
inductive Emits (tree : FileTree) :
    Option String → Option String → Command.Outcome → Prop where
  | nothing {out : Option String} {ending : Command.Ending} :
      Emits tree out none ⟨"", tree, ending⟩
  | printed {line : String} {ending : Command.Ending} :
      Emits tree none (some line) ⟨line, tree, ending⟩
  | written {path line : String} {after : FileTree} {ending : Command.Ending}
      (hfile : after.files path = .ok (.file (.text line)))
      (hothers : ∀ other, FileTree.location other ≠ FileTree.location path →
        ∀ entry, after.files other = .ok entry ↔ tree.files other = .ok entry) :
      Emits tree (some path) (some line) ⟨"", after, ending⟩

/-- The line can be written to the file that is asked for, if there is one. -/
def CanWrite (tree : FileTree) (out line : Option String) : Prop :=
  ∀ path text, out = some path → line = some text →
    ∃ after, tree.writeText path text = .ok after

namespace Command

/-- The command with another place for its text. -/
def sendTo (command : Command) (out : Option String) : Command :=
  { command with out }

section Runs

variable (command : Command) {files : Files} {environment : List (String × String)}

theorem draft_of_error {failure : Failure}
    (hoptions : command.options files environment = .error failure)
    (written : Except FileError Unit) :
    let draft := command.draft files environment
    draft.line? command = none ∧
      (draft.conclude command written).error = some (.configuration failure) := by
  simp [draft, hoptions, Draft.line?, Draft.conclude]

theorem draft_of_ok {options : Options}
    (hoptions : command.options files environment = .ok options) :
    let draft := command.draft files environment
    let results := generateFiles options files command.files
    draft.line? command = (command.text? results).map (· ++ "\n") ∧
      (draft.conclude command (.ok ())).error = command.verdict results := by
  intro draft results
  have hresults : draft.results = .ok results := by
    simp [draft, Command.draft, hoptions, results]
  constructor
  · simp [Draft.line?, hresults]
  · simp only [Draft.conclude, hresults]
    split <;> rfl

/-- A run in a tree emits the line of its draft if that can be written. -/
theorem run_emits {tree : FileTree} {line : Option String}
    (hline : (command.draft tree.files environment).line? command = line)
    (hwrite : CanWrite tree command.out line) :
    Emits tree command.out line (command.run tree environment) ∧
      (command.run tree environment).ending =
        (command.draft tree.files environment).conclude command (.ok ()) := by
  rw [run]
  cases line with
  | none =>
      simp only [hline]
      exact ⟨.nothing, trivial⟩
  | some line =>
      cases hout : command.out with
      | none =>
          simp only [hline]
          exact ⟨.printed, trivial⟩
      | some path =>
          obtain ⟨after, hwritten⟩ := hwrite path line hout rfl
          obtain ⟨hfile, hothers⟩ := FileTree.files_writeText hwritten
          simp only [hline, hwritten]
          exact ⟨.written hfile hothers, trivial⟩

end Runs

end Command

/--
What a run emits and how it ends. Without options nothing is emitted and the run
fails. Otherwise the text is that of the paths that are documented, as a line,
and only then are the others counted: the run ends well if there are none, and
fails with their number otherwise. The line and the error are the same wherever
the line goes, and if it can be written, it is what the run leaves behind there.
-/
theorem run_emits_then_counts_failures (command : Command) (files : Files)
    (environment : List (String × String)) :
    ∃ line error,
      (∀ failure, command.options files environment = .error failure →
        line = none ∧ error = some (.configuration failure)) ∧
      (∀ options, command.options files environment = .ok options →
        (∃ text, TextOf options files command.layout command.files text ∧
          line = text.map (· ++ "\n")) ∧
        EndsAs options files command.files error) ∧
      ∀ out : Option String,
        let sent := command.sendTo out
        let draft := sent.draft files environment
        draft.line? sent = line ∧
        (draft.conclude sent (.ok ())).error = error ∧
        ∀ tree : FileTree, tree.files = files → CanWrite tree out line →
          Emits tree out line (sent.run tree environment) ∧
          (sent.run tree environment).ending.error = error := by
  -- neither the line nor the error depends on where the line goes
  have hsame : ∃ line error, ∀ out : Option String,
      let sent := command.sendTo out
      let draft := sent.draft files environment
      draft.line? sent = line ∧ (draft.conclude sent (.ok ())).error = error := by
    cases hoptions : command.options files environment with
    | error failure =>
        exact ⟨_, _, fun out => (command.sendTo out).draft_of_error hoptions _⟩
    | ok options =>
        let results := generateFiles options files command.files
        exact ⟨(command.text? results).map (· ++ "\n"), command.verdict results,
          fun out => (command.sendTo out).draft_of_ok hoptions⟩
  obtain ⟨line, error, hsame⟩ := hsame
  obtain ⟨hline, herror⟩ := hsame command.out
  refine ⟨line, error, ?_, ?_, ?_⟩
  · intro failure hoptions
    obtain ⟨hnone, hfailure⟩ := command.draft_of_error hoptions (.ok ())
    exact ⟨hline.symm.trans hnone, herror.symm.trans hfailure⟩
  · intro options hoptions
    obtain ⟨htext, hverdict⟩ := command.draft_of_ok hoptions
    refine ⟨⟨_, command.text?_textOf options files, hline.symm.trans htext⟩, ?_⟩
    have hends := command.verdict_endsAs options files
    rwa [← hverdict.symm.trans herror]
  · intro out sent draft
    obtain ⟨hline, herror⟩ := hsame out
    refine ⟨hline, herror, ?_⟩
    rintro tree rfl hwrite
    obtain ⟨hemits, hending⟩ := sent.run_emits hline hwrite
    exact ⟨hemits, (congrArg Command.Ending.error hending).trans herror⟩

/-- A directory with one component. -/
def oneComponent : FileTree :=
  .directory [("A.tsx", .file (.text "class A extends Component\x7b\x7d"))]

/-- A command that asks for it twice, and for a file that is not there. -/
def twiceAndMissing : Command :=
  { files := ["A.tsx", "B.tsx", "A.tsx"], compact := true }

/-- The documentation by path that results. -/
def oneComponentLine : String :=
  "\x7b\"A.tsx\":\x7b\"displayName\":\"A\",\"description\":\"\",\"props\":\x7b\x7d\x7d\x7d\n"

theorem run_of_twiceAndMissing :
    let sent := twiceAndMissing.sendTo (some "docs.json")
    CanWrite oneComponent (some "docs.json") (some oneComponentLine) ∧
      Emits oneComponent (some "docs.json") (some oneComponentLine)
        (sent.run oneComponent []) ∧
      (sent.run oneComponent []).ending.error = some (.filesFailed 1 3) := by
  intro sent
  have hline : (sent.draft oneComponent.files []).line? sent =
      some oneComponentLine := by decide +kernel
  have herror : ((sent.draft oneComponent.files []).conclude sent (.ok ())).error =
      some (.filesFailed 1 3) := by decide +kernel
  have hwrite : CanWrite oneComponent (some "docs.json") (some oneComponentLine) := by
    rintro path text ⟨⟩ ⟨⟩
    have hok : (oneComponent.writeText "docs.json" oneComponentLine).isOk = true := by
      decide +kernel
    cases hwritten : oneComponent.writeText "docs.json" oneComponentLine with
    | ok after => exact ⟨after, rfl⟩
    | error error => simp [hwritten, Except.isOk, Except.toBool] at hok
  obtain ⟨line, error, _, _, hsent⟩ :=
    run_emits_then_counts_failures twiceAndMissing oneComponent.files []
  obtain ⟨hsameLine, hsameError, hrun⟩ := hsent (some "docs.json")
  obtain rfl := hsameLine.symm.trans hline
  obtain rfl := hsameError.symm.trans herror
  exact ⟨hwrite, hrun oneComponent rfl hwrite⟩

end ComponentDocs
