import ComponentDocs.DocComment
import ComponentDocs.Proofs.TextCutting

/-!
The text of a comment is in normal form, and writing it back keeps it.

A description is made of prose lines: they have no blanks at their ends and open
no tags. Trimming the whole drops empty lines and indents the first one less, but
the lines that stay are prose lines. So the text of a comment is normal, and a
normal text comes back unchanged from a comment that is made of it.
-/

namespace ComponentDocs.DocComment

/-- A line that can stand in a description. -/
structure Prose (line : List Char) : Prop where
  single : '\n' ∉ line
  ending : line.getLast?.any Text.isBlank = false
  untagged : isTag line = false

/--
A text that needs no more work: there are no blanks around it or at the end of a
line, and no line opens a tag. The empty text is one.
-/
structure Normal (text : String) : Prop where
  bare : Text.Bare text.toList
  endings : ∀ line ∈ Text.splitAtChar '\n' text.toList,
    line.getLast?.any Text.isBlank = false
  untagged : ∀ line ∈ Text.splitAtChar '\n' text.toList, isTag line = false

/-- A comment made of lines: a star stands before each, and alone before the first. -/
def written (lines : List (List Char)) : String :=
  String.ofList ("*\n".toList ++
    lines.flatMap (fun line => " * ".toList ++ line ++ ['\n']) ++ [' '])

/-! ### Lines of descriptions -/

theorem isTag_trimStart (line : List Char) :
    isTag (Text.trimStart line) = isTag line := by
  have hagain : Text.trimStart (Text.trimStart line) = Text.trimStart line :=
    List.dropWhile_idempotent Text.isBlank line
  rw [isTag, isTag, hagain]

/-- What stands on a line was there before the gutter was cut off. -/
theorem content_subset (line : List Char) : content line ⊆ line := by
  have hstart := (Text.trimStart_suffix line).subset
  refine List.Subset.trans (Text.trimEnd_prefix _).subset ?_
  split
  · rename_i rest hline
    rw [hline] at hstart
    exact fun c hc => hstart (List.mem_cons_of_mem _ (List.mem_cons_of_mem _ hc))
  · rename_i rest hline
    rw [hline] at hstart
    exact fun c hc => hstart (List.mem_cons_of_mem _ hc)
  · exact hstart

/-- The lines of a description are prose. -/
theorem descriptionLines_prose {raw line : List Char}
    (hline : line ∈ descriptionLines raw) : Prose line := by
  have huntagged := List.mem_takeWhile_imp hline
  obtain ⟨whole, hwhole, rfl⟩ :=
    List.mem_map.mp ((List.takeWhile_sublist _).subset hline)
  refine ⟨?_, Text.getLast?_trimEnd _, by simpa using huntagged⟩
  intro hnewline
  exact Text.newline_not_mem_of_mem_lines hwhole (content_subset whole hnewline)

namespace Prose

variable {line : List Char} {lines : List (List Char)}

/-- A prose line with nothing but blanks has nothing at all. -/
theorem eq_nil_of_blank (hline : Prose line)
    (hblank : Text.trimStart line = []) : line = [] := by
  rcases List.eq_nil_or_concat line with rfl | ⟨front, c, rfl⟩
  · rfl
  · have hc := Text.trimStart_eq_nil_iff.mp hblank c (by simp)
    have hending := hline.ending
    simp [hc] at hending

theorem trimStart (hline : Prose line) : Prose (Text.trimStart line) := by
  obtain ⟨cut, hcut⟩ := Text.trimStart_suffix line
  refine ⟨?_, ?_, ?_⟩
  · intro hnewline
    exact hline.single ((Text.trimStart_suffix line).subset hnewline)
  · cases hlast : (Text.trimStart line).getLast? with
    | none => rfl
    | some c =>
        have hending := hline.ending
        rw [← hcut, List.getLast?_append, hlast] at hending
        exact hending
  · rw [isTag_trimStart]
    exact hline.untagged

/-- Cutting blanks off the front of prose lines leaves prose lines. -/
theorem trimStart_joinWith (hlines : ∀ line ∈ lines, Prose line) :
    ∃ rest, (∀ line ∈ rest, Prose line) ∧
      Text.trimStart (Text.joinWith '\n' lines) = Text.joinWith '\n' rest := by
  induction lines with
  | nil => exact ⟨[], hlines, rfl⟩
  | cons line lines ih =>
      rw [List.forall_mem_cons] at hlines
      obtain ⟨hline, hlines⟩ := hlines
      by_cases hblank : Text.trimStart line = []
      · -- an empty line goes, together with its line feed
        obtain rfl := hline.eq_nil_of_blank hblank
        cases lines with
        | nil => exact ⟨[], by simp, rfl⟩
        | cons next lines => exact ih hlines
      · refine ⟨Text.trimStart line :: lines, ?_, ?_⟩
        · rw [List.forall_mem_cons]
          exact ⟨hline.trimStart, hlines⟩
        · cases lines with
          | nil => rfl
          | cons next lines =>
              rw [Text.joinWith_cons _ _ (List.cons_ne_nil next lines),
                Text.joinWith_cons _ _ (List.cons_ne_nil next lines),
                Text.trimStart_append hblank]

/-- Cutting blanks off the end of prose lines leaves prose lines. -/
theorem trimEnd_joinWith (hlines : ∀ line ∈ lines, Prose line) :
    ∃ rest, (∀ line ∈ rest, Prose line) ∧
      Text.trimEnd (Text.joinWith '\n' lines) = Text.joinWith '\n' rest := by
  induction lines using List.reverseRecOn with
  | nil => exact ⟨[], hlines, rfl⟩
  | append_singleton lines line ih =>
      have hline : Prose line := hlines line (by simp)
      have hfront : ∀ other ∈ lines, Prose other :=
        fun other hother => hlines other (List.mem_append_left _ hother)
      by_cases hempty : line = []
      · subst hempty
        by_cases hnone : lines = []
        · subst hnone
          exact ⟨[], hfront, rfl⟩
        · rw [Text.joinWith_concat _ hnone,
            Text.trimEnd_append_blank _ (by simp [Text.isBlank])]
          exact ih hfront
      · -- the last line ends in something that is no blank
        refine ⟨lines ++ [line], hlines, Text.trimEnd_eq_self_iff.mpr ?_⟩
        have hlast : (Text.joinWith '\n' (lines ++ [line])).getLast? =
            line.getLast? := by
          by_cases hnone : lines = []
          · rw [hnone]
            rfl
          · rw [Text.joinWith_concat _ hnone, List.getLast?_append_cons,
              List.getLast?_cons_of_ne_nil hempty]
        rw [hlast]
        exact hline.ending

/-- Prose lines that are joined can be told apart again. -/
theorem of_mem_splitAtChar (hlines : ∀ line ∈ lines, Prose line)
    (hline : line ∈ Text.splitAtChar '\n' (Text.joinWith '\n' lines)) :
    Prose line := by
  by_cases hnone : lines = []
  · subst hnone
    rw [List.mem_singleton.mp hline]
    exact ⟨List.not_mem_nil, rfl, rfl⟩
  · rw [Text.splitAtChar_joinWith (fun other hother => (hlines other hother).single)
      hnone] at hline
    exact hlines line hline

/-- Prose lines make a normal text when they are joined and trimmed. -/
theorem normal_trim (hlines : ∀ line ∈ lines, Prose line) :
    Normal (String.ofList (Text.trim (Text.joinWith '\n' lines))) := by
  obtain ⟨started, hstarted, hstart⟩ := trimStart_joinWith hlines
  obtain ⟨rest, hrest, hend⟩ := trimEnd_joinWith hstarted
  have htrim : Text.trim (Text.joinWith '\n' lines) = Text.joinWith '\n' rest := by
    rw [Text.trim, hstart, hend]
  have hprose : ∀ line ∈ Text.splitAtChar '\n'
      (Text.trim (Text.joinWith '\n' lines)), Prose line := by
    intro line hline
    rw [htrim] at hline
    exact of_mem_splitAtChar hrest hline
  constructor <;> rw [String.toList_ofList]
  · exact Text.trim_bare _
  · exact fun line hline => (hprose line hline).ending
  · exact fun line hline => (hprose line hline).untagged

end Prose

theorem text_normal (raw : String) : Normal (text raw) :=
  Prose.normal_trim fun _ hline => descriptionLines_prose hline

/-! ### Comments made of lines -/

/-- The gutter is all that a written line has more. -/
theorem content_written {line : List Char} (hline : Prose line) :
    content (" * ".toList ++ line) = line := by
  change Text.trimEnd line = line
  exact Text.trimEnd_eq_self_iff.mpr hline.ending

/-- No blank at the end of a line, and so no carriage return. -/
theorem Prose.getLast?_ne_return {line : List Char} (hline : Prose line) :
    line.getLast? ≠ some '\r' := by
  intro hreturn
  have hending := hline.ending
  rw [hreturn] at hending
  exact absurd hending (by decide)

/-- A written line ends where its line feed stands. -/
theorem lines_gutters {lines : List (List Char)}
    (hlines : ∀ line ∈ lines, Prose line) :
    Text.lines (lines.flatMap (fun line => " * ".toList ++ line ++ ['\n']) ++
        [' ']) =
      lines.map (" * ".toList ++ ·) ++ [[' ']] := by
  induction lines with
  | nil => rfl
  | cons line lines ih =>
      rw [List.forall_mem_cons] at hlines
      have hsingle : '\n' ∉ " * ".toList ++ line := by
        rw [List.mem_append, not_or]
        exact ⟨by decide, hlines.1.single⟩
      have hreturn : (" * ".toList ++ line).getLast? ≠ some '\r' := by
        rw [List.getLast?_append]
        have hline := hlines.1.getLast?_ne_return
        cases hlast : line.getLast? with
        | none => decide
        | some c =>
            rw [hlast] at hline
            exact hline
      rw [List.flatMap_cons, List.append_assoc, List.append_assoc,
        List.singleton_append, Text.lines_append hsingle hreturn, ih hlines.2]
      rfl

theorem descriptionLines_written {lines : List (List Char)}
    (hlines : ∀ line ∈ lines, Prose line) :
    descriptionLines (written lines).toList = [] :: (lines ++ [[]]) := by
  have hstar : '\n' ∉ ['*'] := by decide
  have hsplit : Text.lines (written lines).toList =
      ['*'] :: (lines.map (" * ".toList ++ ·) ++ [[' ']]) := by
    rw [written, String.toList_ofList, ← lines_gutters hlines]
    exact Text.lines_append hstar (by decide) _
  have hcontent : (lines.map (" * ".toList ++ ·)).map content = lines := by
    have hsame : lines.map (content ∘ (" * ".toList ++ ·)) = lines.map id :=
      List.map_congr_left fun line hline => content_written (hlines line hline)
    rw [List.map_map, hsame, List.map_id]
  have huntagged : ∀ line ∈ [] :: (lines ++ [[]]), (!isTag line) = true := by
    rw [List.forall_mem_cons, List.forall_mem_append, List.forall_mem_singleton]
    refine ⟨rfl, ?_, rfl⟩
    intro line hline
    rw [(hlines line hline).untagged]
    rfl
  rw [descriptionLines, hsplit, List.map_cons, List.map_append, hcontent]
  exact List.takeWhile_eq_self_iff.mpr huntagged

/-- The lines that a comment is made of are its text, up to blanks around it. -/
theorem text_written {lines : List (List Char)}
    (hlines : ∀ line ∈ lines, Prose line) :
    text (written lines) =
      String.ofList (Text.trim (Text.joinWith '\n' lines)) := by
  have hblank : ∀ c ∈ ['\n'], Text.isBlank c = true := by simp [Text.isBlank]
  have hjoined : Text.trim (Text.joinWith '\n' ([] :: (lines ++ [[]]))) =
      Text.trim (Text.joinWith '\n' lines) := by
    by_cases hnone : lines = []
    · subst hnone
      decide
    · rw [Text.joinWith_cons _ _ (by simp), Text.joinWith_concat _ hnone]
      exact Text.trim_around (Text.joinWith '\n' lines) hblank hblank
  rw [text, description, descriptionLines_written hlines, hjoined]

namespace Normal

variable {t : String}

theorem prose (hnormal : Normal t) :
    ∀ line ∈ Text.splitAtChar '\n' t.toList, Prose line :=
  fun line hline => ⟨Text.not_mem_of_mem_splitAtChar hline,
    hnormal.endings line hline, hnormal.untagged line hline⟩

/-- A normal text comes back from a comment made of its pieces. -/
theorem text_written (hnormal : Normal t) :
    text (written (Text.splitAtChar '\n' t.toList)) = t := by
  rw [DocComment.text_written hnormal.prose, Text.joinWith_splitAtChar,
    Text.trim_eq_self hnormal.bare, String.ofList_toList]

/-- The lines of a normal text are the pieces between its line feeds. -/
theorem lines_eq (hnormal : Normal t) (hsome : t.toList ≠ []) :
    Text.lines t.toList = Text.splitAtChar '\n' t.toList := by
  have hprose := hnormal.prose
  have hlast := hnormal.bare.last
  have hjoined := Text.joinWith_splitAtChar '\n' t.toList
  rcases List.eq_nil_or_concat (Text.splitAtChar '\n' t.toList) with
    hnone | ⟨front, last, hpieces⟩
  · rw [hnone] at hjoined
    exact absurd hjoined.symm hsome
  · rw [hpieces, List.concat_eq_append] at hprose hjoined ⊢
    -- the text would end in a line feed if its last line were empty
    have hfull : last ≠ [] := by
      rintro rfl
      by_cases hfront : front = []
      · subst hfront
        exact hsome hjoined.symm
      · rw [Text.joinWith_concat _ hfront] at hjoined
        rw [← hjoined, List.getLast?_append_cons] at hlast
        exact absurd hlast (by decide)
    rw [← hjoined]
    refine Text.lines_joinWith ?_ (hprose last (by simp)).single hfull
    intro line hline
    have hline := hprose line (List.mem_append_left _ hline)
    exact ⟨hline.single, hline.getLast?_ne_return⟩

theorem text_written_lines (hnormal : Normal t) :
    text (written (Text.lines t.toList)) = t := by
  by_cases hsome : t.toList = []
  · rw [hsome, String.toList_eq_nil_iff.mp hsome]
    decide
  · rw [hnormal.lines_eq hsome]
    exact hnormal.text_written

end Normal

/--
The text of a comment is a normal form. Every comment gives a normal text, and
the normal texts are those that come back unchanged when a comment is made of
them, line by line, whether lines are the pieces between line feeds or what the
comment itself is split into.
-/
theorem comment_text_is_a_normal_form :
    (∀ raw, Normal (text raw)) ∧
    ∀ t : String,
      (text (written (Text.splitAtChar '\n' t.toList)) = t ↔ Normal t) ∧
      (text (written (Text.lines t.toList)) = t ↔ Normal t) := by
  refine ⟨text_normal, ?_⟩
  intro t
  refine ⟨⟨?_, Normal.text_written⟩, ⟨?_, Normal.text_written_lines⟩⟩
  · intro hsame
    rw [← hsame]
    exact text_normal _
  · intro hsame
    rw [← hsame]
    exact text_normal _

-- Indentation, an empty line, a star and a carriage return inside a line are kept.
example :
    text (written (Text.lines "Use:\n  * a\rb\n\n\t*c".toList)) =
      "Use:\n  * a\rb\n\n\t*c" := by
  decide

end ComponentDocs.DocComment
