import ComponentDocs.Proofs.SettingTables
import ComponentDocs.Run

/-!
Which layer decides an option.

The settings of a configuration file and those of the environment are merged into
one table before anything is checked, and the arguments come on top of options
that have been checked. `Settings.decided?` says for one option alone what the
layers below the arguments give; a run has options exactly if there is a file
layer and every option is decided.
-/

namespace ComponentDocs

namespace Settings

/-! ### The layer of the configuration file -/

/-- Where a configuration file is looked for: the preferred name comes first. -/
inductive Expected (files : Files) (root : String) : String → Prop where
  | toml : Expected files root (Path.join root "propdoc.toml")
  | json (hnone : files.hasFile (Path.join root "propdoc.toml") = false) :
      Expected files root (Path.join root "propdoc.json")

/--
What the configuration file gives. A given path must lead somewhere, and a
directory there is an empty table; any other file must be a text that can be read
into a table. Without a given path there need not be a file.
-/
inductive FileLayer (files : Files) (root : String) :
    Option String → List (String × Setting) → Prop where
  | given {path text : String} {fields : List (String × Setting)}
      (htext : files path = .ok (.file (.text text)))
      (hfields : parseFile? path text = some fields) :
      FileLayer files root (some path) fields
  | directory {path : String} (hdirectory : files path = .ok .directory) :
      FileLayer files root (some path) []
  | found {path text : String} {fields : List (String × Setting)}
      (hpath : Expected files root path)
      (htext : files path = .ok (.file (.text text)))
      (hfields : parseFile? path text = some fields) :
      FileLayer files root none fields
  | nowhere (hnone : ∀ name ∈ fileNames,
      files.hasFile (Path.join root name) = false) :
      FileLayer files root none []

section Files

variable {files : Files} {root : String} {config : Option String}

theorem readFile_eq_ok_iff {path : String} (hpath : files.hasPath path = true)
    {fields : List (String × Setting)} :
    readFile files path = .ok fields ↔
      (∃ text, files path = .ok (.file (.text text)) ∧
        parseFile? path text = some fields) ∨
      (files path = .ok .directory ∧ fields = []) := by
  unfold readFile
  cases hentry : files path with
  | error error => simp [Files.hasPath, hentry] at hpath
  | ok entry =>
      cases entry with
      | directory => simp [eq_comm]
      | file content =>
          cases content with
          | binary => simp
          | text text => cases hfields : parseFile? path text <;> simp [hfields]

theorem discover?_eq_some_iff {path : String} :
    discover? files root = some path ↔
      Expected files root path ∧ files.hasFile path = true := by
  simp only [discover?, fileNames, List.map_cons, List.map_nil]
  cases htoml : files.hasFile (Path.join root "propdoc.toml") with
  | true =>
      rw [List.find?_cons_of_pos htoml, Option.some.injEq]
      constructor
      · rintro rfl
        exact ⟨.toml, htoml⟩
      · rintro ⟨hpath, _⟩
        cases hpath with
        | toml => rfl
        | json hnone => simp [hnone] at htoml
  | false =>
      rw [List.find?_cons_of_neg (by simp [htoml])]
      constructor
      · intro hfound
        have hfile := List.find?_some hfound
        have hmem := List.mem_of_find?_eq_some hfound
        rw [List.mem_singleton] at hmem
        subst hmem
        exact ⟨.json htoml, hfile⟩
      · rintro ⟨hpath, hfile⟩
        cases hpath with
        | toml => simp [hfile] at htoml
        | json hnone => rw [List.find?_cons_of_pos hfile]

theorem hasFile_of_text {path text : String}
    (htext : files path = .ok (.file (.text text))) :
    files.hasFile path = true ∧ files.hasPath path = true := by
  simp [Files.hasFile, Files.hasPath, htext]

/-- The file layer is what the chosen file is read into. -/
theorem fileLayer_iff {below : List (String × Setting)} :
    FileLayer files root config below ↔
      ∃ path, chosenFile files root config = .ok path ∧
        path.elim (.ok []) (readFile files) = .ok below := by
  constructor
  · intro hlayer
    cases hlayer with
    | @given path text fields htext hfields =>
        have hpath := (hasFile_of_text htext).2
        exact ⟨some path, by simp [chosenFile, hpath],
          (readFile_eq_ok_iff hpath).mpr (.inl ⟨text, htext, hfields⟩)⟩
    | @directory path hdirectory =>
        have hpath : files.hasPath path = true := by
          simp [Files.hasPath, hdirectory]
        exact ⟨some path, by simp [chosenFile, hpath],
          (readFile_eq_ok_iff hpath).mpr (.inr ⟨hdirectory, rfl⟩)⟩
    | @found path text fields hexpected htext hfields =>
        obtain ⟨hfile, hpath⟩ := hasFile_of_text htext
        have hfound := discover?_eq_some_iff.mpr ⟨hexpected, hfile⟩
        exact ⟨some path, by rw [chosenFile, hfound],
          (readFile_eq_ok_iff hpath).mpr (.inl ⟨text, htext, hfields⟩)⟩
    | nowhere hnone =>
        have hfound : discover? files root = none := by
          simpa [discover?] using hnone
        exact ⟨none, by rw [chosenFile, hfound], rfl⟩
  · rintro ⟨path, hchosen, hread⟩
    cases config with
    | some given =>
        cases hpath : files.hasPath given with
        | false => simp [chosenFile, hpath] at hchosen
        | true =>
            have hsame : some given = path := by
              simpa [chosenFile, hpath] using hchosen
            subst hsame
            rcases (readFile_eq_ok_iff hpath).mp hread with
              ⟨text, htext, hfields⟩ | ⟨hdirectory, rfl⟩
            · exact .given htext hfields
            · exact .directory hdirectory
    | none =>
        have hfound : discover? files root = path := Except.ok.inj hchosen
        cases path with
        | none =>
            cases hread
            exact .nowhere (by simpa [discover?] using hfound)
        | some path =>
            obtain ⟨hexpected, hfile⟩ := discover?_eq_some_iff.mp hfound
            have hpath : files.hasPath path = true := by
              unfold Files.hasFile at hfile
              unfold Files.hasPath
              split at hfile <;> simp_all
            rcases (readFile_eq_ok_iff hpath).mp hread with
              ⟨text, htext, hfields⟩ | ⟨hdirectory, _⟩
            · exact .found hexpected htext hfields
            · simp [Files.hasFile, hdirectory] at hfile

/-- There is one file layer at most. -/
theorem FileLayer.unique {below others : List (String × Setting)}
    (hbelow : FileLayer files root config below)
    (hothers : FileLayer files root config others) : below = others := by
  obtain ⟨path, hchosen, hread⟩ := fileLayer_iff.mp hbelow
  obtain ⟨path', hchosen', hread'⟩ := fileLayer_iff.mp hothers
  rw [hchosen, Except.ok.injEq] at hchosen'
  rw [← hchosen', hread, Except.ok.injEq] at hread'
  exact hread'

end Files

/-! ### All layers -/

/-- The setting of the highest layer that has one for an option. -/
def winner (below : List (String × Setting))
    (environment : List (String × String)) (field : Options.Field) :
    Option Setting :=
  (Environment.value? environment field.name).or
    (Setting.field? below field.name)

/-- No variable makes an option a table. -/
def PlainVariables (environment : List (String × String)) : Prop :=
  ∀ (field : Options.Field) (value : Setting),
    (field.name, value) ∈ Environment.given environment → value.isTable = false

/-- The merged table has the winner's setting for every option. -/
theorem field?_merged {environment : List (String × String)}
    (hplain : PlainVariables environment) (below : List (String × Setting))
    (field : Options.Field) :
    Setting.field? (Setting.mergeFields below
        (Setting.mergeFields [] (Environment.given environment))) field.name =
      winner below environment field := by
  generalize habove :
    Setting.mergeFields [] (Environment.given environment) = above
  have hkeys : (above.map Prod.fst).Nodup := by
    rw [← habove]
    exact Setting.keys_mergeFields_nodup (by simp) _
  have hgiven : Setting.field? above field.name =
      Environment.value? environment field.name := by
    rw [← habove, Setting.field?_mergeFields (hplain field)]
    exact Option.or_none
  rw [Setting.field?_mergeFields, Setting.lastField?_of_nodup hkeys, hgiven, winner]
  intro value hvalue
  rw [Setting.field?_of_mem hkeys hvalue] at hgiven
  exact hplain field value (Setting.mem_of_lastField? hgiven.symm)

/-- Loading merges the layers and then reads options, once. -/
theorem load_eq_ok_iff_readOptions {files : Files}
    {environment : List (String × String)} {root : String}
    {config : Option String} {options : Options} :
    load files environment root config = .ok options ↔
      ∃ below, FileLayer files root config below ∧
        readOptions (Setting.mergeFields below
          (Setting.mergeFields [] (Environment.given environment))) =
            .ok options := by
  obtain ⟨origin, hsettings⟩ := Environment.settings_eq environment
  simp only [load, bind_eq_ok_iff, fileLayer_iff, hsettings]
  constructor
  · rintro ⟨path, hchosen, hrun⟩
    -- with a file or without, what follows its layer is the same
    cases path
    all_goals
      obtain ⟨below, hbelow, hrun⟩ := bind_eq_ok_iff.mp hrun
      refine ⟨below, ⟨_, hchosen, hbelow⟩, ?_⟩
      split at hrun
      · rename_i hread
        exact hread.trans (congrArg Except.ok (Except.ok.inj hrun))
      · exact absurd hrun (by simp)
  · rintro ⟨below, ⟨path, hchosen, hread⟩, hoptions⟩
    refine ⟨path, hchosen, ?_⟩
    cases path
    all_goals
      refine bind_eq_ok_iff.mpr ⟨below, hread, ?_⟩
      rw [hoptions]
      rfl

/-- What the layers below the arguments decide for an option, if that is valid. -/
def decided? (below : List (String × Setting))
    (environment : List (String × String)) (field : Options.Field) :
    Option field.Value :=
  field.above? .default (winner below environment field)

/-- There are options exactly if there is a file layer and all winners are valid. -/
theorem load_eq_ok_iff {files : Files} {environment : List (String × String)}
    {root : String} {config : Option String} {options : Options}
    (hplain : PlainVariables environment) :
    load files environment root config = .ok options ↔
      ∃ below, FileLayer files root config below ∧
        ∀ field, decided? below environment field = some (options.value field) := by
  simp only [load_eq_ok_iff_readOptions, readOptions_eq_ok_iff,
    field?_merged hplain, decided?]

/-- A setting in the file that is not valid is not decided by another layer. -/
theorem decided?_of_invalid {below : List (String × Setting)}
    {environment : List (String × String)} {field : Options.Field}
    {setting : Setting}
    (hnone : Environment.value? environment field.name = none)
    (hsetting : Setting.field? below field.name = some setting)
    (hinvalid : field.read? setting = none) :
    decided? below environment field = none := by
  rw [decided?, winner, hnone, hsetting]
  exact hinvalid

/-- Where a variable sets an option, the file has no say in it. -/
theorem decided?_of_variable {environment : List (String × String)}
    {field : Options.Field}
    (hset : (Environment.value? environment field.name).isSome)
    (below others : List (String × Setting)) :
    decided? below environment field = decided? others environment field := by
  obtain ⟨setting, hsetting⟩ := Option.isSome_iff_exists.mp hset
  rw [decided?, decided?, winner, winner, hsetting, Option.some_or, Option.some_or]

end Settings

namespace Command

variable {command : Command} {files : Files} {environment : List (String × String)}
variable {below : List (String × Setting)} {options : Options}

theorem options_eq_ok_iff :
    command.options files environment = .ok options ↔
      ∃ loaded, Settings.load files environment "." command.config = .ok loaded ∧
        command.override loaded = options := by
  unfold Command.options
  cases Settings.load files environment "." command.config <;> simp

/-- Options below the arguments, where the file layer is known. -/
theorem options_eq_ok_iff_decided
    (hplain : Settings.PlainVariables environment)
    (hlayer : Settings.FileLayer files "." command.config below) :
    command.options files environment = .ok options ↔
      ∃ loaded : Options, command.override loaded = options ∧
        ∀ field, Settings.decided? below environment field =
          some (loaded.value field) := by
  simp only [options_eq_ok_iff, Settings.load_eq_ok_iff hplain]
  constructor
  · rintro ⟨loaded, ⟨others, hothers, hdecided⟩, rfl⟩
    rw [hothers.unique hlayer] at hdecided
    exact ⟨loaded, rfl, hdecided⟩
  · rintro ⟨loaded, rfl, hdecided⟩
    exact ⟨loaded, ⟨below, hlayer, hdecided⟩, rfl⟩

/-- The arguments change an option without regard to the others. -/
theorem value_override {first second : Options} {field : Options.Field}
    (hvalue : first.value field = second.value field) :
    (command.override first).value field =
      (command.override second).value field := by
  cases field with
  | heritageMode => exact congrArg command.heritage.getD hvalue
  | outputVariant => exact congrArg command.variant.getD hvalue
  | namespaceMarkers => exact hvalue
  | componentMarkers => exact hvalue
  | includeValueSets => exact congrArg (command.valueSets || ·) hvalue

end Command

/--
Every option is decided on its own. Where no variable makes an option a table, a
run has options exactly if there is a file layer and the winner of each option is
valid: the variable if there is one, else the setting in the file, else the
default. The arguments then go above the winners. So a setting in the file that
is not valid costs the options, whatever the other arguments are, unless a
variable sets the same option, and then it makes no difference what stands there.
And two runs in which an option has the same winner agree on that option.
-/
theorem options_are_decided_one_by_one (command : Command) (files : Files)
    {environment : List (String × String)}
    (hplain : Settings.PlainVariables environment) :
    ((∃ options, command.options files environment = .ok options) ↔
      ∃ below, Settings.FileLayer files "." command.config below ∧
        ∀ field, (Settings.decided? below environment field).isSome) ∧
    ∀ below, Settings.FileLayer files "." command.config below →
      (∀ options, command.options files environment = .ok options →
        (∃ variant, Settings.decided? below environment .outputVariant =
            some variant ∧
          options.outputVariant = command.variant.getD variant) ∧
        (∃ mode, Settings.decided? below environment .heritageMode = some mode ∧
          options.heritageMode = command.heritage.getD mode) ∧
        (∃ listed, Settings.decided? below environment .includeValueSets =
            some listed ∧
          options.includeValueSets = (listed || command.valueSets)) ∧
        Settings.decided? below environment .namespaceMarkers =
          some options.namespaceMarkers ∧
        Settings.decided? below environment .componentMarkers =
          some options.componentMarkers) ∧
      (∀ (field : Options.Field) (setting : Setting),
        Setting.field? below field.name = some setting →
        field.read? setting = none →
        (Environment.value? environment field.name = none →
          ∀ flags : Command, flags.config = command.config → ∀ options,
            flags.options files environment ≠ .ok options) ∧
        ((Environment.value? environment field.name).isSome →
          ∀ (others : Files) (rest : List (String × Setting)),
            Settings.FileLayer others "." command.config rest →
            (∀ other : Options.Field, other ≠ field →
              Setting.field? rest other.name = Setting.field? below other.name) →
            ∀ options, command.options others environment = .ok options ↔
              command.options files environment = .ok options)) ∧
      ∀ (others : Files) (surroundings : List (String × String))
        (rest : List (String × Setting)) (options result : Options)
        (field : Options.Field), Settings.PlainVariables surroundings →
        Settings.FileLayer others "." command.config rest →
        command.options files environment = .ok options →
        command.options others surroundings = .ok result →
        Settings.winner below environment field =
          Settings.winner rest surroundings field →
        options.value field = result.value field := by
  refine ⟨?_, ?_⟩
  · constructor
    · rintro ⟨options, hoptions⟩
      obtain ⟨loaded, hloaded, _⟩ := Command.options_eq_ok_iff.mp hoptions
      obtain ⟨below, hlayer, hdecided⟩ := (Settings.load_eq_ok_iff hplain).mp hloaded
      refine ⟨below, hlayer, ?_⟩
      intro field
      rw [hdecided field, Option.isSome_some]
    · rintro ⟨below, hlayer, hdecided⟩
      obtain ⟨loaded, hloaded⟩ := Options.exists_of_values fun field =>
        (Settings.decided? below environment field).get (hdecided field)
      refine ⟨_, (Command.options_eq_ok_iff_decided hplain hlayer).mpr
        ⟨loaded, rfl, ?_⟩⟩
      intro field
      rw [hloaded, Option.some_get]
  · intro below hlayer
    refine ⟨?_, ?_, ?_⟩
    · intro options hoptions
      obtain ⟨loaded, rfl, hdecided⟩ :=
        (Command.options_eq_ok_iff_decided hplain hlayer).mp hoptions
      exact ⟨⟨_, hdecided .outputVariant, rfl⟩, ⟨_, hdecided .heritageMode, rfl⟩,
        ⟨_, hdecided .includeValueSets, Bool.or_comm _ _⟩,
        hdecided .namespaceMarkers, hdecided .componentMarkers⟩
    · intro field setting hsetting hinvalid
      refine ⟨?_, ?_⟩
      · intro hnone flags hconfig options hoptions
        rw [← hconfig] at hlayer
        obtain ⟨loaded, _, hdecided⟩ :=
          (Command.options_eq_ok_iff_decided hplain hlayer).mp hoptions
        have hfield := hdecided field
        rw [Settings.decided?_of_invalid hnone hsetting hinvalid] at hfield
        exact absurd hfield (by simp)
      · intro hset others rest hrest hsame options
        have hdecided : ∀ other, Settings.decided? rest environment other =
            Settings.decided? below environment other := by
          intro other
          by_cases hother : other = field
          · subst hother
            exact Settings.decided?_of_variable hset rest below
          · rw [Settings.decided?, Settings.decided?, Settings.winner,
              Settings.winner, hsame other hother]
        rw [Command.options_eq_ok_iff_decided hplain hrest,
          Command.options_eq_ok_iff_decided hplain hlayer]
        simp only [hdecided]
    · intro others surroundings rest options result field hvariables hrest hoptions
        hresult hwinner
      obtain ⟨loaded, rfl, hdecided⟩ :=
        (Command.options_eq_ok_iff_decided hplain hlayer).mp hoptions
      obtain ⟨other, rfl, hother⟩ :=
        (Command.options_eq_ok_iff_decided hvariables hrest).mp hresult
      apply Command.value_override
      have hvalue := hdecided field
      rw [Settings.decided?, hwinner, ← Settings.decided?, hother field,
        Option.some.injEq] at hvalue
      exact hvalue.symm

/-- A variable with the name of an option gives that option and nothing else. -/
theorem Environment.entriesOf_field {label : String} {field : Options.Field}
    (hname : settingName? label = some field.name) (value : String) :
    entriesOf (label, value) = [(field.name, settingOf value)] := by
  have hfields : Text.fields '.' field.name = [field.name] := by
    cases field <;> decide +kernel
  have hfull : field.name.isEmpty = false := by
    cases field <;> decide +kernel
  simp [entriesOf, hname, hfields, nest, hfull]

/-- A directory with a configuration file whose heritage mode is none. -/
def guessedMode : Files := fun path =>
  if path = "./propdoc.toml" then
    .ok (.file (.text "heritage_mode = \"guess\"\nnamespace_markers = [\"N\"]\nx = 1"))
  else
    .error .missing

/-- Asks for the classic variant. -/
def classicCommand : Command := { files := ["A.tsx"], variant := some .classic }

theorem options_of_guessedMode :
    let environment := [("Propdoc_Heritage_Mode", "convention")]
    Settings.PlainVariables environment ∧
    ∃ below setting,
      Settings.FileLayer guessedMode "." none below ∧
      Setting.field? below "heritage_mode" = some setting ∧
      Options.Field.read? .heritageMode setting = none ∧
      ∃ options, classicCommand.options guessedMode environment = .ok options ∧
        options.heritageMode = .convention ∧ options.outputVariant = .classic ∧
        options.namespaceMarkers = ["N"] ∧
        Settings.decided? below environment .namespaceMarkers = some ["N"] := by
  intro environment
  have hplain : Settings.PlainVariables environment := by
    intro field value hvalue
    have hname : Environment.settingName? "Propdoc_Heritage_Mode" =
        some Options.Field.heritageMode.name := by decide +kernel
    have hgiven : Environment.given environment =
        [(Options.Field.heritageMode.name, Environment.settingOf "convention")] :=
      Environment.entriesOf_field hname "convention"
    rw [hgiven, List.mem_singleton, Prod.mk.injEq] at hvalue
    rw [hvalue.2]
    decide +kernel
  have hparsed : (Settings.parseFile? "./propdoc.toml"
      "heritage_mode = \"guess\"\nnamespace_markers = [\"N\"]\nx = 1").map
        (fun fields => (Setting.field? fields "heritage_mode").map Setting.word?) =
      some (some (some "guess")) := by decide +kernel
  obtain ⟨below, hbelow, hfields⟩ := Option.map_eq_some_iff.mp hparsed
  obtain ⟨setting, hsetting, hword⟩ := Option.map_eq_some_iff.mp hfields
  have hlayer : Settings.FileLayer guessedMode "." none below :=
    .found .toml (by decide +kernel) hbelow
  have hinvalid : Options.Field.read? .heritageMode setting = none := by
    rw [Options.Field.read?, hword]
    decide
  have hoptions : classicCommand.options guessedMode environment =
      .ok ⟨.convention, .classic, ["N"], Options.default.componentMarkers, false⟩ := by
    decide +kernel
  obtain ⟨_, hmain⟩ := options_are_decided_one_by_one classicCommand guessedMode hplain
  obtain ⟨_, _, _, hmarkers, _⟩ := (hmain below hlayer).1 _ hoptions
  exact ⟨hplain, below, setting, hlayer, hsetting, hinvalid, _, hoptions, rfl, rfl,
    rfl, hmarkers⟩

end ComponentDocs
