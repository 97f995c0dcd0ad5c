import ComponentDocs.FileTree
import Mathlib.Data.List.Basic

/-!
What stands where in a tree of files, before and after a text is written.

A path is read in two parts: it has a location, which is a list of names without
`..`, and the way there must lead through directories. What stands at a path is
what stands at its location. Writing a text changes what stands at one location
and nothing else, whatever other paths lead there.
-/

namespace ComponentDocs.FileTree

/-! ### Locations -/

/-- The names of a path, `..` taken away. -/
def location (path : String) : List String :=
  flatten [] (components path)

theorem flatten_concat {name : String} (hname : name ≠ "..")
    (done names : List String) :
    flatten done (names ++ [name]) = flatten done names ++ [name] := by
  induction names generalizing done with
  | nil => simp [flatten, hname]
  | cons first names ih =>
      rw [List.cons_append, flatten, flatten]
      split
      · exact ih _
      · exact ih _

/-- A path that ends in a name has it behind the names of its directory. -/
theorem components_of_endsInName {path : String}
    (hname : endsInName path = true) :
    ∃ directories name, components path = directories ++ [name] ∧ name ≠ ".." := by
  rw [endsInName] at hname
  split at hname
  · rename_i last hlast
    obtain ⟨before, hnames⟩ := List.getLast?_eq_some_iff.mp hlast
    simp only [Bool.and_eq_true, bne_iff_ne, ne_eq] at hname
    refine ⟨before.filter (· != "."), last, ?_, hname.2⟩
    have hfilter : components path =
        ((Text.fields '/' path).filter fun name => !name.isEmpty).filter
          (· != ".") := by
      rw [components, List.filter_filter]
      congr 1
      funext name
      exact Bool.and_comm _ _
    rw [hfilter, hnames, List.filter_append]
    simp [hname.1]
  · exact absurd hname (by simp)

/-! ### What stands at a location -/

/-- What a tree is to someone who does not look into it. -/
def outside : FileTree → FileEntry
  | .file content => .file content
  | .directory _ => .directory

/-- What stands at a location. -/
def entryAt? : FileTree → List String → Option FileEntry
  | tree, [] => some tree.outside
  | .file _, _ :: _ => none
  | .directory entries, name :: names =>
      match entry? entries name with
      | some below => entryAt? below names
      | none => none

@[simp] theorem entryAt?_nil (tree : FileTree) :
    tree.entryAt? [] = some tree.outside := by
  cases tree <;> rfl

/-- The way along some names leads through directories and never above the root. -/
def Leads (root : FileTree) : List String → List String → Prop
  | _, [] => True
  | done, name :: names =>
      root.entryAt? done.reverse = some .directory ∧
      (name = ".." → done ≠ []) ∧
      Leads root (if name = ".." then done.drop 1 else name :: done) names

/-- A tree stands at a location, whose last name comes first, below others. -/
inductive Stands (root : FileTree) :
    List String → List FileTree → FileTree → Prop where
  | atRoot : Stands root [] [] root
  | inside {done : List String} {above : List FileTree}
      {entries : List (String × FileTree)} {name : String} {tree : FileTree}
      (hparent : Stands root done above (.directory entries))
      (hentry : entry? entries name = some tree) :
      Stands root (name :: done) (.directory entries :: above) tree

section Walking

variable {root tree found : FileTree} {done names : List String}
  {above : List FileTree} {entries : List (String × FileTree)} {name : String}

theorem walk_into {below : FileTree} (hname : name ≠ "..")
    (hentry : entry? entries name = some below) :
    walk above (.directory entries) (name :: names) =
      walk (.directory entries :: above) below names := by
  cases above <;> simp [walk, hname, hentry]

theorem walk_missing (hname : name ≠ "..") (hentry : entry? entries name = none) :
    walk above (.directory entries) (name :: names) = .error .missing := by
  cases above <;> simp [walk, hname, hentry]

theorem Stands.entryAt?_append (hstands : Stands root done above tree)
    (names : List String) :
    root.entryAt? (done.reverse ++ names) = tree.entryAt? names := by
  induction hstands generalizing names with
  | atRoot => rfl
  | inside _ hentry ih =>
      rw [List.reverse_cons, List.append_assoc, ih]
      simp [entryAt?, hentry]

theorem Stands.entryAt?_eq (hstands : Stands root done above tree) :
    root.entryAt? done.reverse = some tree.outside := by
  simpa using hstands.entryAt?_append []

/-- A walk goes through directories and ends at its location. -/
theorem walk_eq_ok (hstands : Stands root done above tree)
    (hwalk : walk above tree names = .ok found) :
    Leads root done names ∧
      ∃ above, Stands root (flatten done names).reverse above found := by
  induction names generalizing done above tree with
  | nil =>
      rw [walk] at hwalk
      obtain rfl := Except.ok.inj hwalk
      refine ⟨trivial, above, ?_⟩
      rwa [flatten, List.reverse_reverse]
  | cons name names ih =>
      cases tree with
      | file content => exact absurd hwalk (by simp [walk])
      | directory entries =>
          have hhere := hstands.entryAt?_eq
          by_cases hup : name = ".."
          · subst hup
            cases hstands with
            | atRoot => exact absurd hwalk (by simp [walk])
            | inside hparent _ =>
                rw [walk, if_pos rfl] at hwalk
                obtain ⟨hleads, hends⟩ := ih hparent hwalk
                exact ⟨⟨hhere, by simp, hleads⟩, hends⟩
          · rw [Leads, flatten, if_neg hup, if_neg hup]
            cases hentry : entry? entries name with
            | none =>
                rw [walk_missing hup hentry] at hwalk
                exact absurd hwalk (by simp)
            | some below =>
                rw [walk_into hup hentry] at hwalk
                obtain ⟨hleads, hends⟩ := ih (hstands.inside hentry) hwalk
                exact ⟨⟨hhere, fun heq => absurd heq hup, hleads⟩, hends⟩

/-- A way through directories can be walked to whatever stands at its end. -/
theorem walk_of_leads {entry : FileEntry} (hstands : Stands root done above tree)
    (hleads : Leads root done names)
    (hend : root.entryAt? (flatten done names) = some entry) :
    ∃ found, walk above tree names = .ok found ∧ found.outside = entry := by
  induction names generalizing done above tree with
  | nil =>
      rw [flatten, hstands.entryAt?_eq] at hend
      exact ⟨tree, by rw [walk], Option.some.inj hend⟩
  | cons name names ih =>
      obtain ⟨hhere, hbelow, hleads⟩ := hleads
      rw [hstands.entryAt?_eq] at hhere
      cases tree with
      | file content => exact absurd hhere (by simp [outside])
      | directory entries =>
          rw [flatten] at hend
          by_cases hup : name = ".."
          · rw [if_pos hup] at hleads hend
            cases hstands with
            | atRoot => exact absurd rfl (hbelow hup)
            | inside hparent _ =>
                rw [walk, if_pos hup]
                exact ih hparent hleads hend
          · rw [if_neg hup] at hleads hend
            cases hentry : entry? entries name with
            | some below =>
                rw [walk_into hup hentry]
                exact ih (hstands.inside hentry) hleads hend
            | none =>
                -- nothing stands here, so the way can neither end nor go on
                have hnothing : root.entryAt? (name :: done).reverse = none := by
                  rw [List.reverse_cons, hstands.entryAt?_append]
                  simp [entryAt?, hentry]
                cases names with
                | nil => exact absurd (hnothing.symm.trans hend) (by simp)
                | cons next names =>
                    exact absurd (hnothing.symm.trans hleads.1) (by simp)

/-- The way through directories depends on where there are directories only. -/
theorem Leads.congr {other : FileTree}
    (hsame : ∀ names, root.entryAt? names = some .directory ↔
      other.entryAt? names = some .directory) :
    Leads root done names ↔ Leads other done names := by
  induction names generalizing done with
  | nil => exact Iff.rfl
  | cons name names ih => rw [Leads, Leads, hsame, ih]

theorem leads_concat (hname : name ≠ "..") :
    Leads root done (names ++ [name]) ↔
      Leads root done names ∧
        root.entryAt? (flatten done names) = some .directory := by
  induction names generalizing done with
  | nil => simp [Leads, flatten, hname]
  | cons first names ih =>
      rw [List.cons_append, Leads, Leads, ih, flatten]
      split <;> simp only [and_assoc]

end Walking

/-- What is found at a path once the walk along its names has ended. -/
theorem files_of_walk {root found : FileTree} {path : String}
    (hpath : path.isEmpty = false)
    (hwalk : walk [] root (components path) = .ok found) (entry : FileEntry) :
    root.files path = .ok entry ↔
      found.outside = entry ∧
        (endsAsDirectory path = true → entry = .directory) := by
  cases found with
  | directory entries =>
      simp only [files, lookup, hpath, hwalk, outside]
      constructor
      · intro heq
        exact ⟨Except.ok.inj heq, fun _ => (Except.ok.inj heq).symm⟩
      · rintro ⟨rfl, _⟩
        rfl
  | file content =>
      cases hslash : endsAsDirectory path with
      | false => simp [files, lookup, hpath, hwalk, outside, hslash]
      | true =>
          simp only [files, lookup, hpath, hwalk, outside, hslash]
          constructor
          · intro heq
            exact absurd heq (by simp)
          · rintro ⟨rfl, hdirectory⟩
            exact absurd (hdirectory trivial) (by simp)

/-- What stands at a path is what stands at its location. -/
theorem files_eq_ok_iff (root : FileTree) (path : String) (entry : FileEntry) :
    root.files path = .ok entry ↔
      path.isEmpty = false ∧ Leads root [] (components path) ∧
        root.entryAt? (location path) = some entry ∧
        (endsAsDirectory path = true → entry = .directory) := by
  have hroot : Stands root [] [] root := .atRoot
  constructor
  · intro hfiles
    cases hpath : path.isEmpty with
    | true => exact absurd hfiles (by simp [files, lookup, hpath])
    | false =>
        cases hwalk : walk [] root (components path) with
        | error error => exact absurd hfiles (by simp [files, lookup, hpath, hwalk])
        | ok found =>
            obtain ⟨hfound, hslash⟩ := (files_of_walk hpath hwalk entry).mp hfiles
            obtain ⟨hleads, above, hstands⟩ := walk_eq_ok hroot hwalk
            have hend := hstands.entryAt?_eq
            rw [List.reverse_reverse, hfound] at hend
            exact ⟨rfl, hleads, hend, hslash⟩
  · rintro ⟨hpath, hleads, hend, hslash⟩
    obtain ⟨found, hwalk, hfound⟩ := walk_of_leads hroot hleads hend
    exact (files_of_walk hpath hwalk entry).mpr ⟨hfound, hslash⟩

/-! ### Putting a file at a location -/

theorem entry?_setEntry (entries : List (String × FileTree))
    (name other : String) (tree : FileTree) :
    entry? (setEntry entries name tree) other =
      if other = name then some tree else entry? entries other := by
  rw [setEntry, entry?, entry?, List.find?_append]
  by_cases hname : other = name
  · subst hname
    have hnone : (entries.filter fun entry => entry.1 != other).find?
        (fun entry => entry.1 = other) = none := by
      simp [List.find?_eq_none]
    simp [hnone]
  · have hsame : (entries.filter fun entry => entry.1 != name).find?
        (fun entry => entry.1 = other) =
        entries.find? fun entry => entry.1 = other := by
      rw [List.find?_filter]
      congr 1
      funext entry
      by_cases heq : entry.1 = other <;> simp [heq, hname]
    simp [hsame, hname, Ne.symm hname]

/-- Putting a file below a name changes the entry of that name. -/
theorem place_eq_ok {content : Content} {name : String} {names : List String}
    {entries : List (String × FileTree)} {after : FileTree}
    (hplaced : place false (.file content) (name :: names) (.directory entries) =
      .ok after) :
    ∃ changed, after = .directory (setEntry entries name changed) ∧
      ((∃ below, entry? entries name = some below ∧
          place false (.file content) names below = .ok changed) ∨
        (names = [] ∧ entry? entries name = none ∧ changed = .file content)) := by
  rw [place] at hplaced
  cases hentry : entry? entries name with
  | some below =>
      cases hbelow : place false (.file content) names below with
      | error error => simp [hentry, hbelow, bind, Except.bind] at hplaced
      | ok changed =>
          simp only [hentry, hbelow, bind, Except.bind] at hplaced
          exact ⟨changed, (Except.ok.inj hplaced).symm, .inl ⟨below, rfl, hbelow⟩⟩
  | none =>
      cases names with
      | nil =>
          simp only [hentry, place, bind, Except.bind] at hplaced
          exact ⟨_, (Except.ok.inj hplaced).symm, .inr ⟨rfl, rfl, rfl⟩⟩
      | cons next names => simp [hentry] at hplaced

/-- A file that is put at a location changes what stands there, and only there. -/
theorem entryAt?_place {content : Content} {target : List String}
    {root after : FileTree}
    (hplaced : place false (.file content) target root = .ok after)
    (hfree : root.entryAt? target ≠ some .directory) (names : List String) :
    after.entryAt? names =
      if names = target then some (.file content) else root.entryAt? names := by
  induction target generalizing root after names with
  | nil =>
      rw [place] at hplaced
      obtain rfl := Except.ok.inj hplaced
      cases root with
      | directory entries => exact absurd rfl hfree
      | file old => cases names <;> rfl
  | cons name target ih =>
      cases root with
      | file old => exact absurd hplaced (by simp [place])
      | directory entries =>
          obtain ⟨changed, rfl, hchanged⟩ := place_eq_ok hplaced
          cases names with
          | nil => rfl
          | cons first names =>
              by_cases hfirst : first = name
              · subst hfirst
                rw [entryAt?, entry?_setEntry, if_pos rfl]
                rcases hchanged with ⟨below, hentry, hbelow⟩ | ⟨rfl, hentry, rfl⟩
                · simp only [entryAt?, hentry] at hfree ⊢
                  simpa using ih hbelow hfree names
                · -- nothing stood here, and nothing stands below a file
                  simp only [entryAt?, hentry]
                  cases names <;> simp [entryAt?, outside]
              · rw [entryAt?, entry?_setEntry, if_neg hfirst]
                simp [entryAt?, hfirst]

/-! ### Writing a text -/

/-- Where a text can be written there is a way to its location. -/
theorem writeText_eq_ok {root after : FileTree} {path text : String}
    (hwritten : root.writeText path text = .ok after) :
    path.isEmpty = false ∧ endsAsDirectory path = false ∧
      Leads root [] (components path) ∧
      root.entryAt? (location path) ≠ some .directory ∧
      place false (.file (.text text)) (location path) root = .ok after := by
  rw [writeText] at hwritten
  split at hwritten
  · exact absurd hwritten (by simp)
  rename_i hpath
  dsimp only at hwritten
  generalize hway : walk [] root _ = ending at hwritten
  split at hwritten
  · exact absurd hwritten (by simp)
  · exact absurd hwritten (by simp)
  rename_i entries
  split at hwritten
  · exact absurd hwritten (by simp)
  rename_i hkind
  split at hwritten
  · exact absurd hwritten (by simp)
  rename_i hfile
  simp only [Bool.or_eq_true, Bool.not_eq_eq_eq_not, Bool.not_true, not_or,
    Bool.not_eq_false, Bool.not_eq_true] at hkind
  obtain ⟨hname, hslash⟩ := hkind
  obtain ⟨directories, name, hcomponents, hnotUp⟩ := components_of_endsInName hname
  rw [if_pos hname, hcomponents, List.dropLast_concat] at hway
  rw [hcomponents, List.getLast?_concat] at hfile
  obtain ⟨hleads, above, hstands⟩ := walk_eq_ok .atRoot hway
  have hdirectory := hstands.entryAt?_eq
  have hbelow := hstands.entryAt?_append [name]
  rw [List.reverse_reverse] at hdirectory hbelow
  refine ⟨by simpa using hpath, hslash, ?_, ?_, hwritten⟩
  · rw [hcomponents, leads_concat hnotUp]
    exact ⟨hleads, hdirectory⟩
  · rw [location, hcomponents, flatten_concat hnotUp, hbelow, entryAt?]
    cases hentry : entry? entries name with
    | none => simp
    | some below =>
        cases below with
        | file content => simp [outside]
        | directory inner => exact absurd hentry (hfile inner)

/--
A written text is what stands at its path. What stands at a path with another
location stays.
-/
theorem files_writeText {root after : FileTree} {path text : String}
    (hwritten : root.writeText path text = .ok after) :
    after.files path = .ok (.file (.text text)) ∧
      ∀ other, location other ≠ location path → ∀ entry,
        after.files other = .ok entry ↔ root.files other = .ok entry := by
  obtain ⟨hpath, hslash, hleads, hfree, hplaced⟩ := writeText_eq_ok hwritten
  have hentries := entryAt?_place hplaced hfree
  have hdirectories : ∀ names, after.entryAt? names = some .directory ↔
      root.entryAt? names = some .directory := by
    intro names
    rw [hentries]
    split
    · rename_i htarget
      rw [htarget]
      exact iff_of_false (by simp) hfree
    · exact Iff.rfl
  constructor
  · rw [files_eq_ok_iff, Leads.congr hdirectories, hentries, if_pos rfl, hslash]
    exact ⟨hpath, hleads, rfl, by simp⟩
  · intro other hother entry
    rw [files_eq_ok_iff, files_eq_ok_iff, Leads.congr hdirectories, hentries,
      if_neg hother]

end ComponentDocs.FileTree
