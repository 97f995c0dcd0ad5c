import ComponentDocs.DefaultValue
import ComponentDocs.Proofs.OrderedMap
import ComponentDocs.Proofs.TextCutting
import Mathlib.Data.List.Forall2

/-!
What becomes of the entries of a defaults object.

`Fate` gives the rules: an entry is reported, passed over in silence or kept. The
rules leave no entry out and never meet, and they look at nothing but the entry
and the source, whatever that source is. So the values and the diagnostics of an
object are put together from its entries one by one, and an entry that is not
kept could as well be missing.
-/

namespace ComponentDocs

open Source

/-! ### Rules -/

/--
The text that stands for a value, with blanks around it. There is none where it
would have to be cut out of the source and the source has no such slice.
-/
inductive Captured (source : String) (value : Expr) : Option String → Prop where
  | own {text : String} (hown : value.literalText? = some text) :
      Captured source value (some text)
  | emptyBlock (hown : value.literalText? = none)
      (hblock : value.blockStatements? = some []) : Captured source value (some "")
  | block {statements : List Stmt} {first last : Stmt}
      (hown : value.literalText? = none)
      (hblock : value.blockStatements? = some statements)
      (hfirst : statements.head? = some first)
      (hlast : statements.getLast? = some last) :
      Captured source value (Text.slice source ⟨first.span.start, last.span.stop⟩)
  | whole (hown : value.literalText? = none)
      (hblock : value.blockStatements? = none) :
      Captured source value (Text.slice source value.span)

/-- What becomes of an entry. -/
inductive Fate (source : String) : Entry → EntryOutcome → Prop where
  | spread (value : Expr) :
      Fate source (.spread value)
        (.refused none "spread entries are not expanded")
  | unnamed {key : Key} {value : Expr}
      (hkey : (∃ inner, key = .computed inner) ∨ key.staticName? = none) :
      Fate source (.property key value)
        (.refused none "computed keys are not supported")
  | unreadable {key : Key} {value : Expr} {name : String}
      (hkey : key.plainName? = some name) (hvalue : Captured source value none) :
      Fate source (.property key value)
        (.refused (some name) "initializer span is outside the source text")
  | withdrawn {key : Key} {value : Expr} {name text : String}
      (hkey : key.plainName? = some name)
      (hvalue : Captured source value (some text))
      (hundefined : Text.trimmed text = "undefined") :
      Fate source (.property key value) (.discarded name)
  | kept {key : Key} {value : Expr} {name text : String}
      (hkey : key.plainName? = some name)
      (hvalue : Captured source value (some text))
      (hdefined : Text.trimmed text ≠ "undefined") :
      Fate source (.property key value) (.kept name (Text.trimmed text))

/-- The name and the text of an entry that is kept. -/
def EntryOutcome.kept? : EntryOutcome → Option (String × String)
  | .kept name value => some (name, value)
  | _ => none

/-- The diagnostic of an entry that is reported. -/
def EntryOutcome.diagnostic? (owner : String) : EntryOutcome → Option Diagnostic
  | .refused name reason => some (.malformedDefaults owner name reason)
  | _ => none

/-! ### The rules are what is done -/

theorem Source.Key.plainName?_eq_none_iff {key : Key} :
    key.plainName? = none ↔
      (∃ inner, key = .computed inner) ∨ key.staticName? = none := by
  cases key <;> simp [Key.plainName?]

section Rules

variable {source : String} {value : Expr} {entry : Entry} {outcome : EntryOutcome}

theorem Captured.valueText_eq {found : Option String}
    (hfound : Captured source value found) :
    valueText source value = found.map Text.trimmed := by
  cases hfound with
  | own hown => simp [valueText, hown]
  | emptyBlock hown hblock => simp [valueText, hown, hblock, statementsText]
  | block hown hblock hfirst hlast =>
      simp [valueText, hown, hblock, statementsText, hfirst, hlast]
  | whole hown hblock => simp [valueText, hown, hblock]

theorem exists_captured (source : String) (value : Expr) :
    ∃ found, Captured source value found := by
  cases hown : value.literalText? with
  | some text => exact ⟨_, .own hown⟩
  | none =>
      cases hblock : value.blockStatements? with
      | none => exact ⟨_, .whole hown hblock⟩
      | some statements =>
          rcases List.eq_nil_or_concat statements with rfl | ⟨front, last, hstatements⟩
          · exact ⟨_, .emptyBlock hown hblock⟩
          · have hlast : statements.getLast? = some last := by simp [hstatements]
            have hhead : statements.head?.isSome := by simp [hstatements]
            obtain ⟨first, hfirst⟩ := Option.isSome_iff_exists.mp hhead
            exact ⟨_, .block hown hblock hfirst hlast⟩

theorem Fate.of_eq (hfate : Fate source entry outcome) :
    EntryOutcome.of source entry = outcome := by
  cases hfate with
  | spread value => rfl
  | unnamed hkey =>
      have hname := Key.plainName?_eq_none_iff.mpr hkey
      simp [EntryOutcome.of, hname]
  | unreadable hkey hvalue => simp [EntryOutcome.of, hkey, hvalue.valueText_eq]
  | withdrawn hkey hvalue hundefined =>
      simp [EntryOutcome.of, hkey, hvalue.valueText_eq, hundefined]
  | kept hkey hvalue hdefined =>
      simp [EntryOutcome.of, hkey, hvalue.valueText_eq, hdefined]

/-- There is a rule for every entry. -/
theorem exists_fate (source : String) (entry : Entry) :
    ∃ outcome, Fate source entry outcome := by
  cases entry with
  | spread value => exact ⟨_, .spread value⟩
  | property key value =>
      cases hkey : key.plainName? with
      | none => exact ⟨_, .unnamed (Key.plainName?_eq_none_iff.mp hkey)⟩
      | some name =>
          obtain ⟨found, hvalue⟩ := exists_captured source value
          cases found with
          | none => exact ⟨_, .unreadable hkey hvalue⟩
          | some text =>
              by_cases hundefined : Text.trimmed text = "undefined"
              · exact ⟨_, .withdrawn hkey hvalue hundefined⟩
              · exact ⟨_, .kept hkey hvalue hundefined⟩

theorem fate_iff :
    Fate source entry outcome ↔ EntryOutcome.of source entry = outcome := by
  constructor
  · exact Fate.of_eq
  · rintro rfl
    obtain ⟨outcome, hfate⟩ := exists_fate source entry
    rw [hfate.of_eq]
    exact hfate

/-- What is kept has been trimmed, and is not `undefined`. -/
theorem Fate.kept_text {name text : String}
    (hfate : Fate source entry (.kept name text)) :
    Text.Bare text.toList ∧ text ≠ "undefined" := by
  cases hfate with
  | kept hkey hvalue hdefined =>
      refine ⟨?_, hdefined⟩
      rw [Text.trimmed, String.toList_ofList]
      exact Text.trim_bare _

end Rules

/-! ### Objects -/

namespace Defaults

theorem values_ofOutcomes (owner : String) (outcomes : List EntryOutcome) :
    (ofOutcomes owner outcomes).values =
      OrderedMap.ofList (outcomes.filterMap EntryOutcome.kept?) :=
  rfl

theorem diagnostics_eq_filterMap (owner : String) (outcomes : List EntryOutcome) :
    (ofOutcomes owner outcomes).diagnostics =
      outcomes.filterMap (EntryOutcome.diagnostic? owner) :=
  rfl

section Objects

variable {source : String} {initializer : Expr} {span : Span}
variable {entries : List Entry}

theorem read_object (hcore : initializer.core = .object span entries)
    (owner : String) :
    read source owner initializer =
      ofOutcomes owner (entries.map (EntryOutcome.of source)) := by
  rw [read, hcore]

theorem read_values_object (hcore : initializer.core = .object span entries)
    (owner : String) :
    (read source owner initializer).values = OrderedMap.ofList
      (entries.filterMap fun entry => (EntryOutcome.of source entry).kept?) := by
  rw [read_object hcore, values_ofOutcomes, List.filterMap_map]
  rfl

theorem read_other (hcore : ∀ span entries, initializer.core ≠ .object span entries)
    (owner : String) :
    read source owner initializer =
      ofOutcomes owner [.refused none "initializer is not an object literal"] := by
  unfold read
  split
  · rename_i place others hobject
    exact absurd hobject (hcore place others)
  · rfl

/-- Entries that are not kept can be deleted. -/
theorem filterMap_kept?_filter {stays : Entry → Bool}
    (hstays : ∀ entry ∈ entries, ∀ name text,
      Fate source entry (.kept name text) → stays entry = true) :
    (entries.filter stays).filterMap
        (fun entry => (EntryOutcome.of source entry).kept?) =
      entries.filterMap fun entry => (EntryOutcome.of source entry).kept? := by
  rw [List.filterMap_filter]
  apply List.filterMap_congr
  intro entry hentry
  cases hof : EntryOutcome.of source entry with
  | kept name text => rw [if_pos (hstays entry hentry name text (fate_iff.mpr hof))]
  | discarded name => exact ite_self none
  | refused name reason => exact ite_self none

end Objects

end Defaults

/--
Every entry is accounted for, on its own. An initializer that is no object gives no
values and one diagnostic without a property. In an object there is exactly one
rule for each entry. The diagnostics are those of the entries that are reported,
in their order and with the owner that is given. Deleting entries that are not
kept, all of them or some, leaves the values as they are. The names stand in the
order of the first entries that are kept, with the texts of the last ones, and
these texts are trimmed and not `undefined`. The source can be any text.
-/
theorem every_entry_is_accounted_for (source owner : String)
    (initializer : Expr) :
    ((∀ span entries, initializer.core ≠ .object span entries) →
      (Defaults.read source owner initializer).values = .empty ∧
      ∃ reason, (Defaults.read source owner initializer).diagnostics =
        [.malformedDefaults owner none reason]) ∧
    (∀ entry, ∃! outcome, Fate source entry outcome) ∧
    ∀ span entries, initializer.core = .object span entries →
      (∀ (stays : Entry → Bool) (rest : Expr) (place : Span),
        (∀ entry ∈ entries, ∀ name text,
          Fate source entry (.kept name text) → stays entry = true) →
        rest.core = .object place (entries.filter stays) →
        (Defaults.read source owner rest).values =
          (Defaults.read source owner initializer).values) ∧
      (∀ entry ∈ (Defaults.read source owner initializer).values.entries,
        Text.Bare entry.2.toList ∧ entry.2 ≠ "undefined") ∧
      ∃ outcomes, List.Forall₂ (Fate source) entries outcomes ∧
        (Defaults.read source owner initializer).diagnostics =
          outcomes.filterMap (EntryOutcome.diagnostic? owner) ∧
        (Defaults.read source owner initializer).values.keys =
          ((outcomes.filterMap EntryOutcome.kept?).map Prod.fst).eraseDups ∧
        ∀ name, (Defaults.read source owner initializer).values.get? name =
          (((outcomes.filterMap EntryOutcome.kept?).filter
            fun entry => entry.1 = name).map Prod.snd).getLast? := by
  refine ⟨?_, ?_, ?_⟩
  · intro hother
    rw [Defaults.read_other hother]
    exact ⟨rfl, _, rfl⟩
  · intro entry
    refine ⟨EntryOutcome.of source entry, fate_iff.mpr rfl, ?_⟩
    intro outcome hfate
    exact hfate.of_eq.symm
  · intro span entries hcore
    refine ⟨?_, ?_, entries.map (EntryOutcome.of source), ?_, ?_, ?_, ?_⟩
    · intro stays rest place hstays hrest
      rw [Defaults.read_values_object hcore, Defaults.read_values_object hrest,
        Defaults.filterMap_kept?_filter hstays]
    · intro entry hentry
      rw [Defaults.read_values_object hcore] at hentry
      obtain ⟨origin, _, hkept⟩ :=
        List.mem_filterMap.mp (OrderedMap.mem_of_mem_ofList hentry)
      cases hof : EntryOutcome.of source origin with
      | kept name text =>
          rw [hof] at hkept
          obtain rfl := Option.some.inj hkept
          exact (fate_iff.mpr hof).kept_text
      | discarded name => simp [hof, EntryOutcome.kept?] at hkept
      | refused name reason => simp [hof, EntryOutcome.kept?] at hkept
    · rw [List.forall₂_map_right_iff]
      exact List.forall₂_same.mpr fun entry _ => fate_iff.mpr rfl
    · rw [Defaults.read_object hcore, Defaults.diagnostics_eq_filterMap]
    · rw [Defaults.read_object hcore, Defaults.values_ofOutcomes,
        OrderedMap.keys_ofList]
    · intro name
      rw [Defaults.read_object hcore, Defaults.values_ofOutcomes,
        OrderedMap.get?_ofList_eq_getLast?]

/--
Entries of every kind beside a source of one character that takes two bytes. One
value starts inside that character.
-/
def mixedEntries : List Entry :=
  [.spread (.identifier ⟨0, 0⟩ "rest"),
    .property (.identifier ⟨0, 0⟩ "label") (.string ⟨0, 0⟩ " x "),
    .property (.computed (.string ⟨0, 0⟩ "label")) (.string ⟨0, 0⟩ "y"),
    .property (.identifier ⟨0, 0⟩ "items") (.array ⟨1, 2⟩ []),
    .property (.identifier ⟨0, 0⟩ "size") (.identifier ⟨0, 0⟩ "undefined"),
    .property (.identifier ⟨0, 0⟩ "label") (.array ⟨0, 2⟩ [])]

theorem read_mixedEntries :
    let initializer : Expr := .parenthesized ⟨0, 0⟩ (.object ⟨0, 0⟩ mixedEntries)
    initializer.core = .object ⟨0, 0⟩ mixedEntries ∧
    (Defaults.read "é" "Box" initializer).values = ⟨[("label", "é")]⟩ ∧
    ∃ outcomes, List.Forall₂ (Fate "é") mixedEntries outcomes ∧
      outcomes.filterMap (EntryOutcome.diagnostic? "Box") =
        [.malformedDefaults "Box" none "spread entries are not expanded",
          .malformedDefaults "Box" none "computed keys are not supported",
          .malformedDefaults "Box" (some "items")
            "initializer span is outside the source text"] := by
  intro initializer
  have hcore : initializer.core = .object ⟨0, 0⟩ mixedEntries := rfl
  obtain ⟨_, _, hobject⟩ := every_entry_is_accounted_for "é" "Box" initializer
  obtain ⟨_, _, outcomes, hfates, hdiagnostics, _⟩ := hobject _ _ hcore
  refine ⟨hcore, by decide +kernel, outcomes, hfates, ?_⟩
  rw [← hdiagnostics]
  decide +kernel

end ComponentDocs
