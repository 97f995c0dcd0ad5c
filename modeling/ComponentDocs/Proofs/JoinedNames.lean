import ComponentDocs.Heritage

/-!
The names of a clause when a namespace is joined to the name behind it.

Only a marker that another name follows is joined, and the two become one name
with a dot between them: `normalize_cases` says so, and the rest is read off it.
Nothing is lost and nothing moves, and a second pass finds nothing to do unless a
marker has a dot itself.
-/

namespace ComponentDocs.Heritage

variable {markers names : List String}

/-- A marker stands at the front, and another name behind it. -/
def LedByMarker (markers names : List String) : Prop :=
  2 ≤ names.length ∧ ∃ first ∈ names.head?, first ∈ markers

theorem ledByMarker_cons_cons (markers rest : List String)
    (first second : String) :
    LedByMarker markers (first :: second :: rest) ↔ first ∈ markers := by
  simp [LedByMarker]

/-- Two names are joined at the front, or all names are left as they are. -/
theorem normalize_cases (markers names : List String) :
    (∃ first second rest, names = first :: second :: rest ∧ first ∈ markers ∧
      normalize markers names = (first ++ "." ++ second) :: rest) ∨
    (¬ LedByMarker markers names ∧ normalize markers names = names) := by
  match names with
  | [] => exact .inr ⟨by simp [LedByMarker], rfl⟩
  | [name] => exact .inr ⟨by simp [LedByMarker], rfl⟩
  | first :: second :: rest =>
      by_cases hmarker : first ∈ markers
      · refine .inl ⟨first, second, rest, rfl, hmarker, ?_⟩
        simp [normalize, hmarker]
      · refine .inr ⟨?_, by simp [normalize, hmarker]⟩
        rw [ledByMarker_cons_cons]
        exact hmarker

theorem intercalate_normalize (markers names : List String) :
    ".".intercalate (normalize markers names) = ".".intercalate names := by
  obtain ⟨first, second, rest, rfl, -, hjoined⟩ | ⟨-, hkept⟩ :=
    normalize_cases markers names
  · rw [hjoined, String.intercalate_cons_append, String.intercalate_cons_cons]
  · rw [hkept]

theorem length_normalize_iff :
    (normalize markers names).length + 1 = names.length ↔
      LedByMarker markers names := by
  obtain ⟨first, second, rest, rfl, hmarker, hjoined⟩ | ⟨hnot, hkept⟩ :=
    normalize_cases markers names
  · rw [hjoined, ledByMarker_cons_cons]
    exact iff_of_true rfl hmarker
  · rw [hkept]
    exact iff_of_false (by omega) hnot

theorem normalize_of_not_ledByMarker (hnot : ¬ LedByMarker markers names) :
    normalize markers names = names := by
  obtain ⟨first, second, rest, rfl, hmarker, -⟩ | ⟨-, hkept⟩ :=
    normalize_cases markers names
  · exact absurd ((ledByMarker_cons_cons ..).mpr hmarker) hnot
  · exact hkept

theorem drop_two_suffix_normalize (markers names : List String) :
    names.drop 2 <:+ normalize markers names := by
  obtain ⟨first, second, rest, rfl, -, hjoined⟩ | ⟨-, hkept⟩ :=
    normalize_cases markers names
  · rw [hjoined]
    exact List.suffix_cons ..
  · rw [hkept]
    exact List.drop_suffix ..

/-- A joined name has a dot, so that it is no marker without one. -/
theorem not_ledByMarker_joined (hdots : ∀ marker ∈ markers, '.' ∉ marker.toList)
    (first second : String) (rest : List String) :
    ¬ LedByMarker markers ((first ++ "." ++ second) :: rest) := by
  rintro ⟨-, joined, hjoined, hmarker⟩
  obtain rfl : first ++ "." ++ second = joined := Option.some.inj hjoined
  apply hdots _ hmarker
  simp

theorem normalize_normalize (hdots : ∀ marker ∈ markers, '.' ∉ marker.toList)
    (names : List String) :
    normalize markers (normalize markers names) = normalize markers names := by
  apply normalize_of_not_ledByMarker
  obtain ⟨first, second, rest, rfl, -, hjoined⟩ | ⟨hnot, hkept⟩ :=
    normalize_cases markers names
  · rw [hjoined]
    exact not_ledByMarker_joined hdots first second rest
  · rw [hkept]
    exact hnot

/--
Joining loses and reorders nothing. With dots between them the names read as
before. There is one name less exactly if a marker stood at the front and another
name behind it; otherwise all names stay, and those from the third on stay in any
case. If no marker has a dot, joining again changes nothing.
-/
theorem joining_loses_and_reorders_nothing (markers names : List String) :
    ".".intercalate (normalize markers names) = ".".intercalate names ∧
    ((normalize markers names).length + 1 = names.length ↔
      LedByMarker markers names) ∧
    (¬ LedByMarker markers names → normalize markers names = names) ∧
    names.drop 2 <:+ normalize markers names ∧
    ((∀ marker ∈ markers, '.' ∉ marker.toList) →
      normalize markers (normalize markers names) = normalize markers names) := by
  refine ⟨intercalate_normalize markers names, length_normalize_iff,
    normalize_of_not_ledByMarker, drop_two_suffix_normalize markers names, ?_⟩
  intro hdots
  exact normalize_normalize hdots names

theorem joining_of_qualifiedNames :
    normalize ["React", "Preact"] ["React", "Component", "Props", "State"] =
      ["React.Component", "Props", "State"] ∧
    normalize ["React", "Preact"] ["React.Component", "Props", "State"] =
      ["React.Component", "Props", "State"] ∧
    normalize ["React", "Preact"] ["Preact"] = ["Preact"] := by
  have hjoined : normalize ["React", "Preact"]
      ["React", "Component", "Props", "State"] =
        ["React.Component", "Props", "State"] := by decide
  obtain ⟨-, -, -, -, htwice⟩ := joining_loses_and_reorders_nothing
    ["React", "Preact"] ["React", "Component", "Props", "State"]
  obtain ⟨-, -, hkept, -, -⟩ :=
    joining_loses_and_reorders_nothing ["React", "Preact"] ["Preact"]
  have halone : ¬ LedByMarker ["React", "Preact"] ["Preact"] :=
    fun hled => absurd hled.1 (by decide)
  have hagain := htwice (by decide)
  rw [hjoined] at hagain
  exact ⟨hjoined, hagain, hkept halone⟩

-- A marker with a dot may be what a first pass has joined.
example :
    normalize ["A", "A.B"] (normalize ["A", "A.B"] ["A", "B", "C"]) =
      ["A.B.C"] := by
  decide

end ComponentDocs.Heritage
