import ComponentDocs.Proofs.OrderedMap
import ComponentDocs.Settings.Loader

/-!
Tables of settings: how layers of them are merged, and which options they give.

Merging keeps the tables' fields apart: a name has the setting of the upper layer
if that is no table, and else what stood there. A table gives options exactly if
each option, on its own, has a valid setting in it or none, whatever the order in
which they are read.
-/

namespace ComponentDocs

/-! ### Fields of merged tables -/

namespace Setting

/-- Whether a setting is a table. -/
def isTable : Setting → Bool
  | .table .. => true
  | _ => false

/-- The last setting under a name. -/
def lastField? (fields : List (String × Setting)) (name : String) :
    Option Setting :=
  (fields.reverse.find? (fun entry => entry.1 = name)).map Prod.snd

theorem setField_eq_insertEntry (fields : List (String × Setting))
    (name : String) (value : Setting) :
    setField fields name value = OrderedMap.insertEntry name value fields := by
  induction fields with
  | nil => rfl
  | cons entry rest ih => simp only [setField, OrderedMap.insertEntry, ih]

theorem field?_setField (fields : List (String × Setting))
    (name other : String) (value : Setting) :
    field? (setField fields name value) other =
      if name = other then some value else field? fields other := by
  rw [setField_eq_insertEntry]
  exact OrderedMap.get?_insert ⟨fields⟩ name other value

theorem keys_setField_nodup {fields : List (String × Setting)}
    (hkeys : (fields.map Prod.fst).Nodup) (name : String) (value : Setting) :
    ((setField fields name value).map Prod.fst).Nodup := by
  rw [setField_eq_insertEntry]
  change (OrderedMap.insert ⟨fields⟩ name value).keys.Nodup
  exact OrderedMap.keys_insert_nodup hkeys name value

theorem lastField?_cons (entry : String × Setting)
    (fields : List (String × Setting)) (name : String) :
    lastField? (entry :: fields) name =
      (lastField? fields name).or
        (if entry.1 = name then some entry.2 else none) := by
  simp only [lastField?, List.reverse_cons, List.find?_append]
  cases fields.reverse.find? (fun entry => entry.1 = name) with
  | some found => rfl
  | none => by_cases hname : entry.1 = name <;> simp [hname]

/-- Where no name is repeated, the last setting under a name is the only one. -/
theorem lastField?_of_nodup {fields : List (String × Setting)}
    (hkeys : (fields.map Prod.fst).Nodup) (name : String) :
    lastField? fields name = field? fields name := by
  have hsame : OrderedMap.ofList fields = ⟨fields⟩ :=
    OrderedMap.ofList_entries hkeys
  rw [lastField?, ← OrderedMap.get?_ofList, hsame]
  rfl

theorem field?_of_mem {fields : List (String × Setting)} {name : String}
    {value : Setting} (hkeys : (fields.map Prod.fst).Nodup)
    (hvalue : (name, value) ∈ fields) : field? fields name = some value := by
  induction fields with
  | nil => exact absurd hvalue List.not_mem_nil
  | cons entry rest ih =>
      rw [List.map_cons, List.nodup_cons] at hkeys
      rcases List.mem_cons.mp hvalue with rfl | hrest
      · simp [field?]
      · have hne : entry.1 ≠ name := fun heq =>
          hkeys.1 (List.mem_map.mpr ⟨(name, value), hrest, heq.symm⟩)
        rw [field?, List.find?_cons_of_neg (by simpa using hne)]
        exact ih hkeys.2 hrest

theorem mem_of_lastField? {fields : List (String × Setting)} {name : String}
    {value : Setting} (hvalue : lastField? fields name = some value) :
    (name, value) ∈ fields := by
  obtain ⟨entry, hfound, rfl⟩ := Option.map_eq_some_iff.mp hvalue
  have hname : entry.1 = name := by simpa using List.find?_some hfound
  rw [← hname]
  exact List.mem_reverse.mp (List.mem_of_find?_eq_some hfound)

theorem merge_of_not_isTable (below : Setting) {above : Setting}
    (hplain : above.isTable = false) : merge below above = above := by
  cases above with
  | scalar origin value => simp [merge]
  | list origin items => simp [merge]
  | table origin fields => simp [isTable] at hplain

theorem mergeFields_cons (below : List (String × Setting)) (name : String)
    (above : Setting) (fields : List (String × Setting)) :
    mergeFields below ((name, above) :: fields) =
      mergeFields (setField below name
        ((field? below name).elim above (merge · above))) fields := by
  rw [mergeFields]
  cases field? below name <;> rfl

/-- A layer whose setting under a name is no table has its way with that name. -/
theorem field?_mergeFields {below above : List (String × Setting)}
    {name : String}
    (hplain : ∀ value, (name, value) ∈ above → value.isTable = false) :
    field? (mergeFields below above) name =
      (lastField? above name).or (field? below name) := by
  induction above generalizing below with
  | nil => simp [mergeFields, lastField?]
  | cons entry rest ih =>
      obtain ⟨first, value⟩ := entry
      have hrest : ∀ value, (name, value) ∈ rest → value.isTable = false :=
        fun value hmem => hplain value (List.mem_cons_of_mem _ hmem)
      rw [mergeFields_cons, ih hrest, lastField?_cons, field?_setField]
      by_cases hname : first = name
      · subst hname
        have hvalue : (field? below first).elim value (merge · value) = value := by
          cases field? below first with
          | none => rfl
          | some other =>
              exact merge_of_not_isTable other (hplain value List.mem_cons_self)
        rw [hvalue, if_pos rfl, if_pos rfl, Option.or_assoc, Option.some_or]
      · rw [if_neg hname, if_neg hname, Option.or_none]

theorem keys_mergeFields_nodup {below : List (String × Setting)}
    (hkeys : (below.map Prod.fst).Nodup) (above : List (String × Setting)) :
    ((mergeFields below above).map Prod.fst).Nodup := by
  induction above generalizing below with
  | nil => simpa [mergeFields] using hkeys
  | cons entry rest ih =>
      rw [mergeFields_cons]
      exact ih (keys_setField_nodup hkeys _ _)

theorem mergeFields_append (below first second : List (String × Setting)) :
    mergeFields below (first ++ second) =
      mergeFields (mergeFields below first) second := by
  induction first generalizing below with
  | nil => simp [mergeFields]
  | cons entry rest ih => simp only [List.cons_append, mergeFields, ih]

end Setting

/-! ### The environment -/

namespace Environment

/-- The settings that a variable gives at the top. -/
def entriesOf (entry : String × String) : List (String × Setting) :=
  match settingName? entry.1 with
  | none => []
  | some name =>
      match nest (settingOf entry.2) (Text.fields '.' name) with
      | .table _ fields => fields
      | _ => []

/-- The settings that variables give at the top, one after the other. -/
def given (environment : List (String × String)) : List (String × Setting) :=
  environment.flatMap entriesOf

/-- The setting that variables give under a name, the last one if there are more. -/
def value? (environment : List (String × String)) (name : String) :
    Option Setting :=
  Setting.lastField? (given environment) name

/-- One more variable merges what it gives. -/
theorem settings_concat {environment : List (String × String)} {origin : Origin}
    {fields : List (String × Setting)}
    (hfields : settings environment = .table origin fields)
    (entry : String × String) :
    ∃ last, settings (environment ++ [entry]) =
      .table last (Setting.mergeFields fields (entriesOf entry)) := by
  rw [settings, List.foldl_append, ← settings, hfields, List.foldl_cons,
    List.foldl_nil, entriesOf]
  cases hname : settingName? entry.1 with
  | none => exact ⟨origin, by simp [hname, Setting.mergeFields]⟩
  | some name =>
      cases hnest : nest (settingOf entry.2) (Text.fields '.' name) with
      | table inner entries =>
          exact ⟨inner, by simp [hname, hnest, Setting.merge]⟩
      | scalar inner value =>
          exact ⟨origin, by simp [hname, hnest, Setting.mergeFields]⟩
      | list inner items =>
          exact ⟨origin, by simp [hname, hnest, Setting.mergeFields]⟩

/-- The variables make one table of all that they give. -/
theorem settings_eq (environment : List (String × String)) :
    ∃ origin, settings environment =
      .table origin (Setting.mergeFields [] (given environment)) := by
  induction environment using List.reverseRecOn with
  | nil => exact ⟨.environment, by simp [settings, given, Setting.mergeFields]⟩
  | append_singleton environment entry ih =>
      obtain ⟨origin, hfields⟩ := ih
      obtain ⟨last, hlast⟩ := settings_concat hfields entry
      refine ⟨last, ?_⟩
      rw [hlast, given, given, List.flatMap_append, List.flatMap_singleton,
        Setting.mergeFields_append]

end Environment

/-! ### What a setting says -/

namespace Setting

/-- The text of a setting; a single character is one. -/
def text? : Setting → Option String
  | .scalar _ (.text value) => some value
  | .scalar _ (.character value) => some value.toString
  | _ => none

/-- The texts of a list, if all its items are texts. -/
def texts? : Setting → Option (List String)
  | .list _ items => items.mapM text?
  | _ => none

/-- The truth value of a setting. -/
def truth? : Setting → Option Bool
  | .scalar _ (.bool value) => some value
  | _ => none

/-- The word of a setting: a text, or the first name of a table, with no value. -/
def word? : Setting → Option String
  | .scalar _ (.text value) => some value
  | .table _ fields =>
      match firstField? fields with
      | some (text, .scalar _ .unit) => some text
      | _ => none
  | _ => none

end Setting

namespace Options

/-- The values of an option. -/
def Field.Value : Field → Type
  | .heritageMode => HeritageMode
  | .outputVariant => OutputVariant
  | .namespaceMarkers => List String
  | .componentMarkers => List String
  | .includeValueSets => Bool

/-- The value of one option. -/
def value (options : Options) : (field : Field) → field.Value
  | .heritageMode => options.heritageMode
  | .outputVariant => options.outputVariant
  | .namespaceMarkers => options.namespaceMarkers
  | .componentMarkers => options.componentMarkers
  | .includeValueSets => options.includeValueSets

/-- Options with another value of one option. -/
def set (options : Options) : (field : Field) → field.Value → Options
  | .heritageMode, mode => { options with heritageMode := mode }
  | .outputVariant, variant => { options with outputVariant := variant }
  | .namespaceMarkers, names => { options with namespaceMarkers := names }
  | .componentMarkers, names => { options with componentMarkers := names }
  | .includeValueSets, listed => { options with includeValueSets := listed }

/-- What a setting says about an option; nothing if it is not valid. -/
def Field.read? : (field : Field) → Setting → Option field.Value
  | .heritageMode, setting => setting.word?.bind HeritageMode.ofWord?
  | .outputVariant, setting => setting.word?.bind OutputVariant.ofWord?
  | .namespaceMarkers, setting => setting.texts?
  | .componentMarkers, setting => setting.texts?
  | .includeValueSets, setting => setting.truth?

@[simp] theorem value_set_self (options : Options) (field : Field)
    (given : field.Value) : (options.set field given).value field = given := by
  cases field <;> rfl

theorem value_set_of_ne (options : Options) {field other : Field}
    (hne : field ≠ other) (given : field.Value) :
    (options.set field given).value other = options.value other := by
  cases field <;> cases other <;> first | rfl | exact absurd rfl hne

@[simp] theorem set_value_self (options : Options) (field : Field) :
    options.set field (options.value field) = options := by
  cases field <;> rfl

/-- What a layer above options says, where it has a setting. -/
def Field.above? (field : Field) (options : Options) :
    Option Setting → Option field.Value
  | some setting => field.read? setting
  | none => some (options.value field)

theorem Field.above?_set_of_ne (options : Options) {field other : Field}
    (hne : field ≠ other) (given : field.Value) (setting : Option Setting) :
    other.above? (options.set field given) setting =
      other.above? options setting := by
  cases setting with
  | none => exact congrArg some (value_set_of_ne options hne given)
  | some setting => rfl

/-- Options are what their values are. -/
theorem eq_of_values {first second : Options}
    (hvalues : ∀ field, first.value field = second.value field) :
    first = second := by
  have hmode := hvalues .heritageMode
  have hvariant := hvalues .outputVariant
  have hspaces := hvalues .namespaceMarkers
  have hmarkers := hvalues .componentMarkers
  have hlisted := hvalues .includeValueSets
  cases first
  cases second
  simp_all [value]

/-- Any values are those of some options. -/
theorem exists_of_values (values : (field : Field) → field.Value) :
    ∃ options : Options, ∀ field, options.value field = values field := by
  refine ⟨⟨values .heritageMode, values .outputVariant, values .namespaceMarkers,
    values .componentMarkers, values .includeValueSets⟩, ?_⟩
  intro field
  cases field <;> rfl

end Options

theorem bind_eq_ok_iff {ε α β : Type} {first : Except ε α}
    {next : α → Except ε β} {result : β} :
    (first >>= next) = .ok result ↔
      ∃ value, first = .ok value ∧ next value = .ok result := by
  cases first <;> simp [bind, Except.bind]

namespace Settings

theorem readText_eq_ok_iff {path : List String} {setting : Setting}
    {text : String} :
    readText path setting = .ok text ↔ setting.text? = some text := by
  unfold readText Setting.text?
  split <;> simp [wrongKind]

theorem readBool_eq_ok_iff {path : List String} {setting : Setting}
    {truth : Bool} :
    readBool path setting = .ok truth ↔ setting.truth? = some truth := by
  unfold readBool Setting.truth?
  split <;> simp [wrongKind]

theorem readItems_eq_ok_iff {path : List String} {index : Nat}
    {items : List Setting} {texts : List String} :
    readItems path index items = .ok texts ↔
      items.mapM Setting.text? = some texts := by
  induction items generalizing index texts with
  | nil => simp [readItems]
  | cons item items ih =>
      simp only [readItems, bind_eq_ok_iff, readText_eq_ok_iff, ih,
        List.mapM_cons]
      simp [pure, Except.pure, Option.bind_eq_some_iff]

theorem readTexts_eq_ok_iff {path : List String} {setting : Setting}
    {texts : List String} :
    readTexts path setting = .ok texts ↔ setting.texts? = some texts := by
  unfold readTexts Setting.texts?
  split
  · exact readItems_eq_ok_iff
  · simp [wrongKind]

theorem readWord_eq_ok_iff {α : Type} {all : List α} {word : α → String}
    {text : String} {path : List String} {origin : Origin} {choice : α} :
    readWord all word text path origin = .ok choice ↔
      all.find? (fun choice => word choice = text) = some choice := by
  unfold readWord
  cases all.find? (fun choice => word choice = text) <;> simp

theorem readChoice_eq_ok_iff {α : Type} {name : String} {all : List α}
    {word : α → String} {path : List String} {setting : Setting} {choice : α} :
    readChoice name all word path setting = .ok choice ↔
      setting.word?.bind (fun text =>
        all.find? (fun choice => word choice = text)) = some choice := by
  cases setting with
  | scalar origin value =>
      cases value <;>
        simp [readChoice, Setting.word?, readWord_eq_ok_iff, wrongKind]
  | list origin items => simp [readChoice, Setting.word?, wrongKind]
  | table origin fields =>
      cases hfirst : Setting.firstField? fields with
      | none => simp [readChoice, Setting.word?, hfirst]
      | some entry =>
          obtain ⟨text, value⟩ := entry
          cases value with
          | scalar inner value =>
              cases value <;>
                simp [readChoice, Setting.word?, hfirst, bind_eq_ok_iff,
                  readWord_eq_ok_iff, wrongKind, pure, Except.pure]
          | list inner items =>
              simp [readChoice, Setting.word?, hfirst, bind_eq_ok_iff, wrongKind]
          | table inner fields =>
              simp [readChoice, Setting.word?, hfirst, bind_eq_ok_iff, wrongKind]

theorem readField_eq_ok_iff {options result : Options} {field : Options.Field}
    {setting : Setting} :
    readField options field setting = .ok result ↔
      ∃ value, field.read? setting = some value ∧
        options.set field value = result := by
  cases field <;>
    simp only [readField, bind_eq_ok_iff, readChoice_eq_ok_iff,
      readTexts_eq_ok_iff, readBool_eq_ok_iff, pure, Except.pure,
      Except.ok.injEq] <;> rfl

/-- Setting some options, each once, leaves the others as they were. -/
theorem foldlM_eq_ok_iff
    {step : Options → Options.Field → Except SettingError Options}
    (settings : Options.Field → Option Setting)
    (hstep : ∀ options field result, step options field = .ok result ↔
      ∃ value, field.above? options (settings field) = some value ∧
        options.set field value = result)
    {options result : Options} {todo : List Options.Field} (hnodup : todo.Nodup) :
    todo.foldlM step options = .ok result ↔
      (∀ field ∈ todo, field.above? options (settings field) =
        some (result.value field)) ∧
      ∀ field, field ∉ todo → result.value field = options.value field := by
  induction todo generalizing options with
  | nil =>
      simp only [List.foldlM_nil, pure, Except.pure, Except.ok.injEq,
        List.not_mem_nil, not_false_eq_true, forall_const, false_imp_iff,
        implies_true, true_and]
      constructor
      · rintro rfl
        exact fun field => rfl
      · exact fun hvalues => (Options.eq_of_values hvalues).symm
  | cons first rest ih =>
      obtain ⟨hfirst, hrest⟩ := List.nodup_cons.mp hnodup
      simp only [List.foldlM_cons, bind_eq_ok_iff, hstep, ih hrest]
      constructor
      · rintro ⟨_, ⟨value, hvalue, rfl⟩, hset, hkept⟩
        refine ⟨?_, ?_⟩
        · intro field hfield
          by_cases hsame : first = field
          · subst hsame
            rw [hvalue, hkept first hfirst, Options.value_set_self]
          · have hmem : field ∈ rest :=
              (List.mem_cons.mp hfield).resolve_left (Ne.symm hsame)
            rw [← hset field hmem, Options.Field.above?_set_of_ne _ hsame]
        · intro field hfield
          rw [List.mem_cons, not_or] at hfield
          rw [hkept field hfield.2,
            Options.value_set_of_ne _ (Ne.symm hfield.1)]
      · rintro ⟨hset, hkept⟩
        refine ⟨_, ⟨_, hset first List.mem_cons_self, rfl⟩, ?_, ?_⟩
        · intro field hfield
          have hne : first ≠ field := fun heq => hfirst (heq ▸ hfield)
          rw [Options.Field.above?_set_of_ne _ hne]
          exact hset field (List.mem_cons_of_mem _ hfield)
        · intro field hfield
          by_cases hsame : first = field
          · subst hsame
            rw [Options.value_set_self]
          · rw [Options.value_set_of_ne _ hsame]
            refine hkept field ?_
            rw [List.mem_cons, not_or]
            exact ⟨Ne.symm hsame, hfield⟩

/-- A table gives options exactly if every setting in it is valid. -/
theorem readOptions_eq_ok_iff {fields : List (String × Setting)}
    {options : Options} :
    readOptions fields = .ok options ↔
      ∀ field : Options.Field,
        field.above? .default (Setting.field? fields field.name) =
          some (options.value field) := by
  have hall : ∀ field : Options.Field, field ∈ Options.Field.sorted := by
    intro field
    cases field <;> decide
  rw [readOptions, foldlM_eq_ok_iff
    (fun field => Setting.field? fields field.name) ?_ (by decide)]
  · constructor
    · exact fun hset field => hset.1 field (hall field)
    · exact fun hset => ⟨fun field _ => hset field,
        fun field hfield => absurd (hall field) hfield⟩
  · intro options field result
    cases Setting.field? fields field.name with
    | none => simp [Options.Field.above?]
    | some setting => exact readField_eq_ok_iff

end Settings

end ComponentDocs
