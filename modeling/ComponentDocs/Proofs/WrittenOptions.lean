import ComponentDocs.Proofs.JsonText
import ComponentDocs.Proofs.Precedence

/-!
Options that are written and read again.

Any of the options can be written as the fields of a JSON object. The text is
read in two ways, as options and as a configuration file that is found and
loaded. Both give the options that were written, and the defaults for the others.
-/

namespace ComponentDocs

theorem Json.field?_eq_get?_ofList (fields : List (String × Json))
    (name : String) :
    Json.field? fields name = (OrderedMap.ofList fields).get? name := by
  rw [OrderedMap.get?_ofList]
  rfl

namespace Options

/-! ### Writing -/

/-- One option as JSON. -/
def valueJson (options : Options) : Field → Json
  | .heritageMode => .string options.heritageMode.word
  | .outputVariant => .string options.outputVariant.word
  | .namespaceMarkers => .array (options.namespaceMarkers.map .string)
  | .componentMarkers => .array (options.componentMarkers.map .string)
  | .includeValueSets => .bool options.includeValueSets

/-- Some options as fields of a JSON object. -/
def fieldsJson (options : Options) (todo : List Field) : List (String × Json) :=
  todo.map fun field => (field.name, options.valueJson field)

/-- The options that are to be written as a JSON object. -/
def partJson (options : Options) (written : Field → Bool) : Json :=
  .object (options.fieldsJson (Field.declared.filter written))

/-- Options with the values of others where these were written. -/
def TakesPart (result options : Options) (written : Field → Bool) : Prop :=
  ∀ field, result.value field =
    if written field then options.value field else Options.default.value field

theorem partJson_all (options : Options) :
    options.partJson (fun _ => true) = options.toJson :=
  rfl

theorem Field.name_injective : Function.Injective Field.name := by
  intro field other hname
  cases field <;> cases other <;> first | rfl | exact absurd hname (by decide)

/-- What is written under an option's name is that option. -/
theorem field?_fieldsJson (options : Options) (todo : List Field)
    (field : Field) :
    Json.field? (options.fieldsJson todo) field.name =
      if field ∈ todo then some (options.valueJson field) else none := by
  rw [Json.field?_eq_get?_ofList]
  -- the last field of a name is found first, so the induction is from the end
  induction todo using List.reverseRecOn with
  | nil => rfl
  | append_singleton todo last ih =>
      rw [fieldsJson, List.map_append, List.map_singleton, OrderedMap.ofList_concat,
        OrderedMap.get?_insert, ← fieldsJson, ih]
      by_cases hlast : last = field
      · subst hlast
        simp
      · have hname : last.name ≠ field.name := fun heq =>
          hlast (Field.name_injective heq)
        simp [hname, Ne.symm hlast]

theorem field?_written (options : Options) (written : Field → Bool)
    (field : Field) :
    Json.field? (options.fieldsJson (Field.declared.filter written)) field.name =
      if written field then some (options.valueJson field) else none := by
  have hdeclared : field ∈ Field.declared := by cases field <;> decide
  simp only [field?_fieldsJson, List.mem_filter, hdeclared, true_and]

theorem partJson_plain (options : Options) (written : Field → Bool)
    (room : Nat) : Json.Plain (room + 2) (options.partJson written) := by
  apply Json.Plain.object
  intro entry hentry
  obtain ⟨field, _, rfl⟩ := List.mem_map.mp hentry
  cases field <;> simp [valueJson]

/-- What is written is read back as JSON, in both layouts. -/
theorem read?_partJson (options : Options) (written : Field → Bool)
    (layout : Json.Layout) :
    Json.read? (Json.render layout (options.partJson written)) =
      some (options.partJson written) :=
  Json.read?_render (options.partJson_plain written 125) layout

/-! ### Reading options -/

theorem readTexts_strings (texts : List String) :
    readTexts (.array (texts.map .string)) = .ok texts := by
  rw [readTexts]
  induction texts with
  | nil => rfl
  | cons text texts ih =>
      rw [List.map_cons, List.mapM_cons, ih]
      rfl

theorem readField_valueJson (options given : Options) (field : Field) :
    readField options field (given.valueJson field) =
      .ok (options.set field (given.value field)) := by
  cases field with
  | heritageMode =>
      obtain ⟨mode, variant, spaces, markers, listed⟩ := given
      cases mode <;> rfl
  | outputVariant =>
      obtain ⟨mode, variant, spaces, markers, listed⟩ := given
      cases variant <;> rfl
  | namespaceMarkers =>
      rw [readField, valueJson, readTexts_strings]
      rfl
  | componentMarkers =>
      rw [readField, valueJson, readTexts_strings]
      rfl
  | includeValueSets => rfl

/-- Reading options in any order sets these options and no others. -/
theorem readFields_valueJson (options given : Options) (todo : List Field) :
    ∃ result, readFields options (todo.map fun field =>
        (field, given.valueJson field)) = .ok result ∧
      ∀ field, result.value field =
        if field ∈ todo then given.value field else options.value field := by
  induction todo generalizing options with
  | nil => exact ⟨options, rfl, fun field => rfl⟩
  | cons first rest ih =>
      obtain ⟨result, hresult, hvalues⟩ :=
        ih (options.set first (given.value first))
      refine ⟨result, ?_, ?_⟩
      · change (readField options first (given.valueJson first) >>= _) = _
        rw [readField_valueJson]
        exact hresult
      · intro field
        rw [hvalues]
        by_cases hfirst : field = first
        · subst hfirst
          simp
        · simp [hfirst, value_set_of_ne options (Ne.symm hfirst)]

/-- The options that were written are read, and the others are the defaults. -/
theorem ofJson_partJson {result options : Options} {written : Field → Bool}
    (hpart : result.TakesPart options written) :
    ofJson (options.partJson written) = .ok result := by
  -- fields are looked up in the order of their names, not as they were written
  have hfound : (Field.sorted.filterMap fun field =>
      (Json.field? (options.fieldsJson (Field.declared.filter written))
        field.name).map (field, ·)) =
      (Field.sorted.filter written).map fun field =>
        (field, options.valueJson field) := by
    rw [← List.filterMap_eq_map, List.filterMap_filter]
    congr 1
    funext field
    rw [field?_written]
    split <;> rfl
  obtain ⟨read, hread, hvalues⟩ :=
    readFields_valueJson Options.default options (Field.sorted.filter written)
  have hsame : read = result := by
    apply eq_of_values
    intro field
    have hsorted : field ∈ Field.sorted := by cases field <;> decide
    simp only [hvalues, hpart field, List.mem_filter, hsorted, true_and]
  rw [partJson, ofJson, hfound, hread, hsame]

end Options

/-! ### Loading options -/

namespace Setting

/-- Fields are made settings one by one. -/
theorem ofFields_eq (origin : Origin) (signed : Bool)
    (done : List (String × Setting)) (fields : List (String × Json)) :
    ofFields origin signed done fields =
      (OrderedMap.insertAll ⟨done⟩ (fields.map fun field =>
        (field.1, ofJson origin signed field.2))).entries := by
  induction fields generalizing done with
  | nil =>
      rw [ofFields]
      rfl
  | cons field rest ih =>
      rw [ofFields, ih, setField_eq_insertEntry]
      rfl

theorem field?_ofFields (origin : Origin) (signed : Bool)
    (fields : List (String × Json)) (name : String) :
    field? (ofFields origin signed [] fields) name =
      (Json.field? fields name).map (ofJson origin signed) := by
  rw [ofFields_eq, Json.field?_eq_get?_ofList, ← OrderedMap.get?_ofList_map]
  rfl

theorem texts?_ofJson_strings (origin : Origin) (signed : Bool)
    (texts : List String) :
    (ofJson origin signed (.array (texts.map .string))).texts? = some texts := by
  rw [ofJson, texts?]
  induction texts with
  | nil =>
      rw [List.map_nil, ofItems]
      rfl
  | cons text texts ih =>
      rw [List.map_cons, ofItems, List.mapM_cons, ih, ofJson]
      rfl

end Setting

/-- What is written for an option says its value as a setting. -/
theorem Options.read?_ofJson_valueJson (options : Options) (field : Field)
    (origin : Origin) :
    field.read? (Setting.ofJson origin false (options.valueJson field)) =
      some (options.value field) := by
  cases field with
  | heritageMode =>
      obtain ⟨mode, variant, spaces, markers, listed⟩ := options
      cases mode <;> rw [valueJson, Setting.ofJson] <;> rfl
  | outputVariant =>
      obtain ⟨mode, variant, spaces, markers, listed⟩ := options
      cases variant <;> rw [valueJson, Setting.ofJson] <;> rfl
  | namespaceMarkers => exact Setting.texts?_ofJson_strings origin false _
  | componentMarkers => exact Setting.texts?_ofJson_strings origin false _
  | includeValueSets =>
      rw [valueJson, Setting.ofJson]
      rfl

namespace Environment

/-- No variable is a setting. -/
def Unset (environment : List (String × String)) : Prop :=
  ∀ entry ∈ environment, settingName? entry.1 = none

theorem Unset.given_eq_nil {environment : List (String × String)}
    (hunset : Unset environment) : given environment = [] := by
  rw [given, List.flatMap_eq_nil_iff]
  intro entry hentry
  rw [entriesOf, hunset entry hentry]

theorem Unset.value?_eq_none {environment : List (String × String)}
    (hunset : Unset environment) (name : String) :
    value? environment name = none := by
  rw [value?, hunset.given_eq_nil]
  rfl

theorem Unset.plainVariables {environment : List (String × String)}
    (hunset : Unset environment) : Settings.PlainVariables environment := by
  intro field value hvalue
  rw [hunset.given_eq_nil] at hvalue
  exact absurd hvalue List.not_mem_nil

end Environment

namespace Path

/-- A name stands alone or behind a slash when it is joined to a path. -/
theorem toList_join (root name : String) :
    (join root name).toList = name.toList ∨
      ∃ front, (join root name).toList = front ++ '/' :: name.toList := by
  rw [join]
  split
  · rename_i hroot
    rw [Bool.or_eq_true, decide_eq_true_iff, String.isEmpty_iff] at hroot
    rcases hroot with rfl | hlast
    · exact .inl (by simp)
    · obtain ⟨front, hfront⟩ := List.getLast?_eq_some_iff.mp hlast
      exact .inr ⟨front, by simp [hfront]⟩
  · exact .inr ⟨root.toList, by simp⟩

/-- A name behind a path is the name of the file there. -/
theorem fileName?_join (root : String) {name : String}
    (hname : name.toList ∉ [[], ['.'], ['.', '.']])
    (hslash : '/' ∉ name.toList) :
    fileName? (join root name).toList = some name.toList := by
  have hpieces : ∃ pieces, Text.splitAtChar '/' (join root name).toList =
      pieces ++ [name.toList] := by
    have hsingle := List.splitOn_eq_singleton hslash
    rw [Text.splitAtChar_eq_splitOn]
    rcases toList_join root name with halone | ⟨front, hfront⟩
    · exact ⟨[], by rw [halone, hsingle, List.nil_append]⟩
    · exact ⟨front.splitOn '/', by
        rw [hfront, List.splitOn_append_cons_self, hsingle]⟩
  obtain ⟨pieces, hpieces⟩ := hpieces
  simp only [List.mem_cons, List.not_mem_nil, or_false, not_or] at hname
  obtain ⟨hempty, hdot, hup⟩ := hname
  simp [fileName?, hpieces, List.filter_append, hempty, hdot, hup]

end Path

namespace Settings

theorem isJson_join (root : String) :
    isJson (Path.join root "propdoc.json") = true := by
  rw [isJson, Path.extension?, Path.fileName?_join root (by decide) (by decide)]
  decide

/-- A text stands in the JSON file that is found in a directory. -/
structure Stored (files : Files) (root text : String) : Prop where
  json : files (Path.join root "propdoc.json") = .ok (.file (.text text))
  toml : files.hasFile (Path.join root "propdoc.toml") = false

/-- What stands in the file is the file's layer. -/
theorem Stored.fileLayer {files : Files} {root text : String}
    {fields : List (String × Json)} (hstored : Stored files root text)
    (hread : Json.read? text = some (.object fields)) :
    ∃ origin, FileLayer files root none
      (Setting.ofFields origin false [] fields) := by
  refine ⟨.file (Path.plain (Path.join root "propdoc.json")) "JSON",
    .found (.json hstored.toml) hstored.json ?_⟩
  rw [parseFile?, if_pos (isJson_join root), hread]

/-- The options that were written are decided by the file, the others by nothing. -/
theorem decided?_partJson {result options : Options}
    {written : Options.Field → Bool} {environment : List (String × String)}
    (hpart : result.TakesPart options written)
    (hunset : Environment.Unset environment) (origin : Origin)
    (field : Options.Field) :
    decided? (Setting.ofFields origin false []
        (options.fieldsJson (Options.Field.declared.filter written)))
      environment field = some (result.value field) := by
  rw [decided?, winner, hunset.value?_eq_none, Option.none_or,
    Setting.field?_ofFields, Options.field?_written, hpart]
  split
  · exact options.read?_ofJson_valueJson field origin
  · rfl

end Settings

namespace Options

/--
A text from which options are read: on its own, and as the JSON file that is found
in a directory while no variable is a setting.
-/
structure Holds (text : String) (options : Options) : Prop where
  read : ∃ value, Json.read? text = some value ∧ ofJson value = .ok options
  loaded : ∀ (files : Files) (environment : List (String × String))
    (root : String), Settings.Stored files root text →
    Environment.Unset environment →
    Settings.load files environment root none = .ok options

theorem TakesPart.holds {options result : Options} {written : Field → Bool}
    (hpart : result.TakesPart options written) (layout : Json.Layout) :
    Holds (Json.render layout (options.partJson written)) result := by
  have hread := options.read?_partJson written layout
  refine ⟨⟨_, hread, ofJson_partJson hpart⟩, ?_⟩
  intro files environment root hstored hunset
  obtain ⟨origin, hlayer⟩ := hstored.fileLayer hread
  exact (Settings.load_eq_ok_iff hunset.plainVariables).mpr
    ⟨_, hlayer, Settings.decided?_partJson hpart hunset origin⟩

/--
Options survive being written and read, whatever their names are. From the whole
of them the same options come back, and from any part of them their values where
they were written and the defaults elsewhere. It makes no difference whether the
text is read on its own or found in a directory.
-/
theorem survive_writing (options : Options) (layout : Json.Layout) :
    Holds (Json.render layout options.toJson) options ∧
    ∀ written : Field → Bool, ∃ result : Options,
      result.TakesPart options written ∧
      Holds (Json.render layout (options.partJson written)) result := by
  refine ⟨?_, ?_⟩
  · have hall : options.TakesPart options fun _ => true := fun field => rfl
    rw [← partJson_all]
    exact hall.holds layout
  · intro written
    obtain ⟨result, hpart⟩ := exists_of_values fun field =>
      if written field then options.value field else Options.default.value field
    exact ⟨result, hpart, TakesPart.holds hpart layout⟩

/-- Names that have to be escaped, and no namespaces. -/
def escapedMarkers : Options where
  heritageMode := .convention
  outputVariant := .classic
  namespaceMarkers := []
  componentMarkers := ["", "\"\\\n\x00", "é😀"]
  includeValueSets := true

/-- A directory that holds nothing but a JSON configuration file. -/
def holdsOnly (root text : String) : Files := fun path =>
  if path = Path.join root "propdoc.json" then .ok (.file (.text text))
  else .error .missing

theorem load_escapedMarkers :
    let text := Json.render .pretty
      (escapedMarkers.partJson (· = .componentMarkers))
    let environment := [("HOME", "/"), ("PROPDOC_", "x")]
    Settings.Stored (holdsOnly "pkg" text) "pkg" text ∧
    Environment.Unset environment ∧
    Settings.load (holdsOnly "pkg" text) environment "pkg" none =
      .ok { Options.default with componentMarkers := ["", "\"\\\n\x00", "é😀"] } := by
  intro text environment
  have hstored : Settings.Stored (holdsOnly "pkg" text) "pkg" text :=
    ⟨if_pos rfl, by
      rw [Files.hasFile, holdsOnly, if_neg (by decide)]⟩
  have hunset : Environment.Unset environment := by
    unfold Environment.Unset
    decide +kernel
  obtain ⟨_, hparts⟩ := survive_writing escapedMarkers .pretty
  obtain ⟨result, hpart, hholds⟩ := hparts (· = .componentMarkers)
  have hresult : result =
      { Options.default with componentMarkers := ["", "\"\\\n\x00", "é😀"] } := by
    apply eq_of_values
    intro field
    rw [hpart field]
    cases field <;> rfl
  rw [← hresult]
  exact ⟨hstored, hunset, hholds.loaded _ _ _ hstored hunset⟩

end Options

end ComponentDocs
