import ComponentDocs.Text.Slice

/-!
Slices of a text that goes on.

Splitting takes the characters whose bytes are as many as asked for, if there
are such. As long as that many bytes are there, text that is added behind makes
no difference, so that a slice inside a text stays what it is.
-/

namespace ComponentDocs.Text

theorem width_append (first second : List Char) :
    width (first ++ second) = width first + width second := by
  induction first with
  | nil => simp [width]
  | cons c cs ih => simp [width, ih, Nat.add_assoc]

theorem width_eq_zero_iff {cs : List Char} : width cs = 0 ↔ cs = [] := by
  cases cs with
  | nil => simp [width]
  | cons c cs =>
      have hsize := c.utf8Size_pos
      simp [width]
      omega

/-- Splitting takes the characters whose bytes are as many as asked for. -/
theorem splitBytes_eq_some_iff {offset : Nat} {cs taken rest : List Char} :
    splitBytes offset cs = some (taken, rest) ↔
      cs = taken ++ rest ∧ width taken = offset := by
  induction cs generalizing offset taken with
  | nil =>
      cases offset with
      | zero =>
          simp only [splitBytes, Option.some.injEq, Prod.mk.injEq,
            width_eq_zero_iff]
          grind
      | succ n =>
          simp only [splitBytes, reduceCtorEq, false_iff]
          rintro ⟨hnil, hwidth⟩
          simp_all [width]
  | cons c cs ih =>
      cases offset with
      | zero =>
          simp only [splitBytes, Option.some.injEq, Prod.mk.injEq,
            width_eq_zero_iff]
          grind
      | succ n =>
          have hsize := c.utf8Size_pos
          simp only [splitBytes]
          cases taken with
          | nil => simp [width]
          | cons first taken =>
              by_cases hfits : c.utf8Size ≤ n + 1
              · simp only [if_pos hfits, Option.map_eq_some_iff, Prod.exists,
                  Prod.mk.injEq, List.cons.injEq, List.cons_append, width]
                constructor
                · rintro ⟨inside, behind, hinside, ⟨rfl, rfl⟩, rfl⟩
                  obtain ⟨rfl, hwidth⟩ := ih.mp hinside
                  exact ⟨⟨rfl, rfl⟩, by omega⟩
                · rintro ⟨⟨rfl, hcs⟩, hwidth⟩
                  exact ⟨taken, rest, ih.mpr ⟨hcs, by omega⟩, ⟨rfl, rfl⟩, rfl⟩
              · simp only [if_neg hfits, reduceCtorEq, false_iff,
                  List.cons_append, List.cons.injEq, width]
                rintro ⟨⟨rfl, _⟩, hwidth⟩
                omega

/-- Inside a text, a split does not see what is added behind. -/
theorem splitBytes_append {offset : Nat} {cs : List Char}
    (hinside : offset ≤ width cs) (more : List Char) :
    splitBytes offset (cs ++ more) =
      (splitBytes offset cs).map (fun (taken, rest) => (taken, rest ++ more)) := by
  cases hsplit : splitBytes offset cs with
  | some parts =>
      obtain ⟨taken, rest⟩ := parts
      obtain ⟨rfl, hwidth⟩ := splitBytes_eq_some_iff.mp hsplit
      exact splitBytes_eq_some_iff.mpr ⟨List.append_assoc .., hwidth⟩
  | none =>
      rw [Option.map_none, Option.eq_none_iff_forall_not_mem]
      rintro ⟨taken, rest⟩ hmem
      obtain ⟨hsame, hwidth⟩ := splitBytes_eq_some_iff.mp hmem
      -- what is taken ends inside the old text, or with it
      have htaken : ∃ behind, cs = taken ++ behind := by
        rcases List.append_eq_append_iff.mp hsame with
          ⟨excess, rfl, _⟩ | ⟨behind, hcs, _⟩
        · rw [width_append] at hwidth
          have hexcess : excess = [] := width_eq_zero_iff.mp (by omega)
          exact ⟨[], by simp [hexcess]⟩
        · exact ⟨behind, hcs⟩
      obtain ⟨behind, hcs⟩ := htaken
      rw [splitBytes_eq_some_iff.mpr ⟨hcs, hwidth⟩] at hsplit
      exact Option.some_ne_none _ hsplit

/-- A slice that ends inside a text does not see what is added behind. -/
theorem slice_append {s : String} {span : Span}
    (hinside : span.stop ≤ width s.toList) (more : String) :
    slice (s ++ more) span = slice s span := by
  unfold slice sliceChars
  by_cases hle : span.start ≤ span.stop
  · rw [if_pos hle, if_pos hle, String.toList_append,
      splitBytes_append (Nat.le_trans hle hinside)]
    cases hsplit : splitBytes span.start s.toList with
    | none => rfl
    | some parts =>
        obtain ⟨taken, rest⟩ := parts
        obtain ⟨htext, hwidth⟩ := splitBytes_eq_some_iff.mp hsplit
        have hrest : span.stop - span.start ≤ width rest := by
          rw [htext, width_append] at hinside
          omega
        simp only [Option.map_some, Option.bind_eq_bind, Option.bind_some,
          splitBytes_append hrest]
        cases splitBytes (span.stop - span.start) rest <;> rfl
  · rw [if_neg hle, if_neg hle]

end ComponentDocs.Text
