import ComponentDocs.Proofs.CommentText

/-!
What the text of a comment does not depend on.

A comment is split into lines, but its text is also that of the pieces between
line feeds: a carriage return at the end of a piece is a blank that is cut off,
and an empty piece at the end is trimmed. So the text is a function of what
stands on the pieces. Blanks around a piece do not change what stands on it, and
a piece that opens the tags ends the text whatever follows.
-/

namespace ComponentDocs.DocComment

/-! ### What stands on a line -/

/-- What follows the gutter of a line that does not start with a blank. -/
def behindGutter : List Char → List Char
  | '*' :: ' ' :: rest => rest
  | '*' :: rest => rest
  | rest => rest

theorem content_eq (line : List Char) :
    content line = Text.trimEnd (behindGutter (Text.trimStart line)) := rfl

theorem behindGutter_star {rest : List Char} (hspace : rest.head? ≠ some ' ') :
    behindGutter ('*' :: rest) = rest := by
  refine behindGutter.eq_2 rest ?_
  rintro behind rfl
  exact hspace rfl

theorem behindGutter_of_no_star {line : List Char}
    (hstar : line.head? ≠ some '*') : behindGutter line = line := by
  refine behindGutter.eq_3 line ?_ ?_
  · rintro rest rfl
    exact hstar rfl
  · rintro rest rfl
    exact hstar rfl

section Blanks

variable {blank : List Char} (hblank : ∀ c ∈ blank, Text.isBlank c = true)
include hblank

theorem trimEnd_blank : Text.trimEnd blank = [] :=
  Text.trimEnd_append_blank [] hblank

/-- A space behind the star of an empty line is part of the gutter. -/
theorem trimEnd_behindGutter_blank :
    Text.trimEnd (behindGutter ('*' :: blank)) = [] := by
  by_cases hspace : blank.head? = some ' '
  · obtain ⟨more, rfl⟩ := List.head?_eq_some_iff.mp hspace
    exact trimEnd_blank (List.forall_mem_cons.mp hblank).2
  · rw [behindGutter_star hspace]
    exact trimEnd_blank hblank

theorem trimEnd_behindGutter_append {line : List Char} (hsome : line ≠ []) :
    Text.trimEnd (behindGutter (line ++ blank)) =
      Text.trimEnd (behindGutter line) := by
  have hcut := fun rest => Text.trimEnd_append_blank rest hblank
  obtain ⟨c, rest, rfl⟩ := List.exists_cons_of_ne_nil hsome
  by_cases hstar : c = '*'
  · subst hstar
    cases rest with
    | nil => exact trimEnd_behindGutter_blank hblank
    | cons d rest =>
        by_cases hspace : d = ' '
        · subst hspace
          exact hcut rest
        · rw [List.cons_append, behindGutter_star (by simpa using hspace),
            behindGutter_star (by simpa using hspace), hcut]
  · rw [behindGutter_of_no_star (by simpa using hstar),
      behindGutter_of_no_star (by simpa using hstar), hcut]

theorem content_blank_append (line : List Char) :
    content (blank ++ line) = content line := by
  rw [content, content, Text.trimStart_blank_append hblank]

/-- Blanks behind a line do not count, not even a space behind its star. -/
theorem content_append_blank (line : List Char) :
    content (line ++ blank) = content line := by
  by_cases hnone : Text.trimStart line = []
  · rw [content_blank_append (Text.trimStart_eq_nil_iff.mp hnone)]
    rw [content_eq, content_eq, hnone, Text.trimStart_eq_nil_iff.mpr hblank]
  · rw [content_eq, content_eq, Text.trimStart_append hnone,
      trimEnd_behindGutter_append hblank hnone]

end Blanks

/-! ### The text as a function of its pieces -/

/-- What stands on the pieces between line feeds, up to the first tag. -/
def prosePieces (raw : List Char) : List (List Char) :=
  ((Text.splitAtChar '\n' raw).map content).takeWhile (fun line => !isTag line)

theorem content_returnAdded {line piece : List Char}
    (hpiece : Text.ReturnAdded line piece) : content piece = content line := by
  rcases hpiece with rfl | rfl
  · rfl
  · exact content_append_blank (List.forall_mem_singleton.mpr rfl) line

theorem map_content_eq {first second : List (List Char)}
    (hsame : List.Forall₂ (fun line other => content line = content other)
      first second) : first.map content = second.map content := by
  rwa [← List.forall₂_eq_eq_eq, List.forall₂_map_left_iff,
    List.forall₂_map_right_iff]

/-- An empty line at the end is trimmed. -/
theorem trim_joinWith_concat_nil (lines : List (List Char)) :
    Text.trim (Text.joinWith '\n' (lines ++ [[]])) =
      Text.trim (Text.joinWith '\n' lines) := by
  by_cases hnone : lines = []
  · rw [hnone]
    rfl
  · rw [Text.joinWith_concat _ hnone]
    exact Text.trim_around (Text.joinWith '\n' lines) (List.forall_mem_nil _)
      (List.forall_mem_singleton.mpr rfl)

/-- Lines and pieces give the same text. -/
theorem description_eq_trim_prosePieces (raw : List Char) :
    description raw = Text.trim (Text.joinWith '\n' (prosePieces raw)) := by
  obtain ⟨pieces, hlines, hsplit⟩ := Text.lines_returnAdded raw
  have hcontent : (Text.lines raw).map content = pieces.map content :=
    map_content_eq (hlines.imp fun _ _ hpiece => (content_returnAdded hpiece).symm)
  rw [description, descriptionLines, prosePieces, hcontent]
  rcases hsplit with hsplit | hsplit
  · rw [hsplit]
  · rw [hsplit, List.map_append, List.takeWhile_append]
    split
    · rename_i hall
      rw [(List.takeWhile_prefix _).eq_of_length hall]
      exact (trim_joinWith_concat_nil _).symm
    · rfl

/-- The text depends on what stands on the pieces, and on nothing else. -/
theorem text_eq_of_contents {raw other : String}
    (hsame : (Text.splitAtChar '\n' raw.toList).map content =
      (Text.splitAtChar '\n' other.toList).map content) :
    text raw = text other := by
  simp only [text, description_eq_trim_prosePieces, prosePieces, hsame]

/-! ### Layout -/

/--
A piece, and the same piece with blanks around its line. The line is the whole
piece, or what stands before a carriage return at its end.
-/
inductive Padded : List Char → List Char → Prop where
  | around (front line back ending : List Char)
      (hfront : ∀ c ∈ front, Text.isBlank c = true ∧ c ≠ '\n')
      (hback : ∀ c ∈ back, Text.isBlank c = true ∧ c ≠ '\n')
      (hending : ending = [] ∨ ending = ['\r']) :
      Padded (line ++ ending) (front ++ line ++ back ++ ending)

/-- A text with blanks put at the edges of some of its lines. -/
def Relaid (raw relaid : String) : Prop :=
  ∃ pieces, List.Forall₂ Padded (Text.splitAtChar '\n' raw.toList) pieces ∧
    relaid = String.ofList (Text.joinWith '\n' pieces)

/-- A text with a carriage return put before each of its line feeds. -/
def withReturns (raw : String) : String :=
  String.ofList (raw.toList.flatMap fun c =>
    if c = '\n' then ['\r', '\n'] else [c])

theorem Padded.content_eq {piece padded : List Char}
    (hpadded : Padded piece padded) : content padded = content piece := by
  obtain ⟨front, line, back, ending, hfront, hback, hending⟩ := hpadded
  have hreturn : ∀ c ∈ ending, Text.isBlank c = true := by
    rcases hending with rfl | rfl <;> simp [Text.isBlank]
  rw [content_append_blank hreturn,
    content_append_blank fun c hc => (hback c hc).1,
    content_blank_append fun c hc => (hfront c hc).1,
    content_append_blank hreturn]

theorem Padded.newline_not_mem {piece padded : List Char}
    (hpadded : Padded piece padded) (hpiece : '\n' ∉ piece) : '\n' ∉ padded := by
  obtain ⟨front, line, back, ending, hfront, hback, _⟩ := hpadded
  simp only [List.mem_append, not_or] at hpiece ⊢
  exact ⟨⟨⟨fun hmem => (hfront _ hmem).2 rfl, hpiece.1⟩,
    fun hmem => (hback _ hmem).2 rfl⟩, hpiece.2⟩

theorem newline_not_mem_of_padded {pieces padded : List (List Char)}
    (hpadded : List.Forall₂ Padded pieces padded)
    (hpieces : ∀ piece ∈ pieces, '\n' ∉ piece) : ∀ piece ∈ padded, '\n' ∉ piece := by
  induction hpadded with
  | nil => exact hpieces
  | cons hfirst _ ih =>
      rw [List.forall_mem_cons] at hpieces ⊢
      exact ⟨hfirst.newline_not_mem hpieces.1, ih hpieces.2⟩

/-- The pieces of a text that is put together from padded ones. -/
theorem Relaid.pieces {raw relaid : String} (hrelaid : Relaid raw relaid) :
    List.Forall₂ Padded (Text.splitAtChar '\n' raw.toList)
      (Text.splitAtChar '\n' relaid.toList) := by
  obtain ⟨pieces, hpadded, rfl⟩ := hrelaid
  have hnewline := newline_not_mem_of_padded hpadded
    fun _ hpiece => Text.not_mem_of_mem_splitAtChar hpiece
  rwa [String.toList_ofList, Text.splitAtChar_joinWith hnewline
    (Text.ne_nil_of_splitAtChar hpadded)]

theorem Relaid.text_eq {raw relaid : String} (hrelaid : Relaid raw relaid) :
    text relaid = text raw :=
  text_eq_of_contents (map_content_eq
    (hrelaid.pieces.flip.imp fun _ _ hpadded => Padded.content_eq hpadded))

/-- Carriage returns are put behind all pieces but the last one. -/
theorem flatMap_returns (cs : List Char) :
    ∃ pieces, List.Forall₂ Text.ReturnAdded (Text.splitAtChar '\n' cs) pieces ∧
      (cs.flatMap fun c => if c = '\n' then ['\r', '\n'] else [c]) =
        Text.joinWith '\n' pieces := by
  induction cs with
  | nil => exact ⟨[[]], .cons (Or.inl rfl) .nil, rfl⟩
  | cons c cs ih =>
      obtain ⟨pieces, hpieces, hjoined⟩ := ih
      rw [List.flatMap_cons, hjoined]
      by_cases hc : c = '\n'
      · refine ⟨['\r'] :: pieces, ?_, ?_⟩
        · rw [Text.splitAtChar, if_pos hc]
          exact .cons (Or.inr rfl) hpieces
        · rw [if_pos hc, Text.joinWith_cons _ _ (Text.ne_nil_of_splitAtChar hpieces)]
          rfl
      · obtain ⟨piece, others, hrest, hwhole⟩ := Text.splitAtChar_cons hc cs
        rw [hrest] at hpieces
        obtain ⟨first, back, hfirst, hback, rfl⟩ :=
          List.forall₂_cons_left_iff.mp hpieces
        refine ⟨(c :: first) :: back, ?_, ?_⟩
        · rw [hwhole]
          exact .cons (hfirst.cons c) hback
        · rw [if_neg hc]
          cases back <;> rfl

theorem returnAdded_padded {piece padded : List Char}
    (hreturn : Text.ReturnAdded piece padded) : Padded piece padded := by
  rcases hreturn with rfl | rfl
  · simpa using Padded.around [] padded [] [] (by simp) (by simp) (Or.inl rfl)
  · simpa using
      Padded.around [] piece ['\r'] [] (by simp) (by simp [Text.isBlank])
        (Or.inl rfl)

theorem withReturns_relaid (raw : String) : Relaid raw (withReturns raw) := by
  obtain ⟨pieces, hpieces, hjoined⟩ := flatMap_returns raw.toList
  exact ⟨pieces, hpieces.imp fun _ _ => returnAdded_padded,
    congrArg String.ofList hjoined⟩

/-! ### Tags -/

/-- An `@` stands first on a line, blanks and a star in front of it apart. -/
def OpensTags (line : List Char) : Prop :=
  ∃ front star gap rest, line = front ++ star ++ gap ++ '@' :: rest ∧
    (∀ c ∈ front, Text.isBlank c = true) ∧ (star = [] ∨ star = ['*']) ∧
    ∀ c ∈ gap, Text.isBlank c = true

theorem isTag_trimEnd {gap : List Char} (hgap : ∀ c ∈ gap, Text.isBlank c = true)
    (rest : List Char) : isTag (Text.trimEnd (gap ++ '@' :: rest)) = true := by
  rw [Text.trimEnd_append_cons (by decide), isTag, Text.trimStart_blank_append hgap]
  rfl

theorem OpensTags.isTag_content {line : List Char} (hline : OpensTags line) :
    isTag (content line) = true := by
  obtain ⟨front, star, gap, rest, rfl, hfront, hstar, hgap⟩ := hline
  rw [List.append_assoc, List.append_assoc, content_blank_append hfront]
  rcases hstar with rfl | rfl
  · rw [List.nil_append, content_blank_append hgap]
    exact isTag_trimEnd (List.forall_mem_nil _) rest
  · change isTag (Text.trimEnd (behindGutter ('*' :: (gap ++ '@' :: rest)))) = true
    by_cases hspace : gap.head? = some ' '
    · obtain ⟨more, rfl⟩ := List.head?_eq_some_iff.mp hspace
      exact isTag_trimEnd (List.forall_mem_cons.mp hgap).2 rest
    · have hnext : (gap ++ '@' :: rest).head? ≠ some ' ' := by
        cases gap with
        | nil => simp
        | cons c more => exact hspace
      rw [behindGutter_star hnext]
      exact isTag_trimEnd hgap rest

/-- A line that opens the tags ends the text. -/
theorem prosePieces_of_tag {line : List Char} (hsingle : '\n' ∉ line)
    (htag : OpensTags line) (before after : List Char) :
    prosePieces (before ++ '\n' :: (line ++ '\n' :: after)) =
      prosePieces before := by
  rw [prosePieces, Text.splitAtChar_append, Text.splitAtChar_append,
    Text.splitAtChar_of_not_mem hsingle, List.map_append, List.takeWhile_append,
    List.singleton_append, List.map_cons,
    List.takeWhile_cons_of_neg (by simp [htag.isTag_content]), List.append_nil]
  split
  · rename_i hall
    exact ((List.takeWhile_prefix _).eq_of_length hall).symm
  · rfl

/--
Layout and tags never change a description. A comment has the same text with a
carriage return before each line feed, and with blanks put before and behind any
of its lines, whether or not a carriage return at the end counts to the line. And
a line that opens the tags ends the text: neither it nor what follows it is seen,
whatever stands before it.
-/
theorem layout_and_tags_leave_the_text :
    (∀ raw, text (withReturns raw) = text raw) ∧
    (∀ raw relaid, Relaid raw relaid → text relaid = text raw) ∧
    ∀ before line after : String, '\n' ∉ line.toList → OpensTags line.toList →
      text (before ++ "\n" ++ line ++ "\n" ++ after) = text before := by
  refine ⟨fun raw => (withReturns_relaid raw).text_eq, fun _ _ => Relaid.text_eq,
    ?_⟩
  intro before line after hsingle htag
  have hpieces := prosePieces_of_tag hsingle htag before.toList after.toList
  simp only [text, description_eq_trim_prosePieces]
  rw [← hpieces]
  simp

/-- A comment with a lone star, a carriage return and an indented line. -/
def indentedComment : String := "*\r\n * Use:\n *   twice"

theorem layout_of_indentedComment :
    text (withReturns indentedComment) = "Use:\n  twice" ∧
    text "* \t\r\n\u3000 * Use:\r\n *   twice\u00a0" = "Use:\n  twice" ∧
    text (indentedComment ++ "\n" ++ "\t*\u2003@see" ++ "\n" ++ "More.") =
      "Use:\n  twice" := by
  obtain ⟨hreturns, hrelaid, htags⟩ := layout_and_tags_leave_the_text
  have htext : text indentedComment = "Use:\n  twice" := by decide
  have hpadded : Relaid indentedComment
      "* \t\r\n\u3000 * Use:\r\n *   twice\u00a0" := by
    refine ⟨["* \t\r".toList, "\u3000 * Use:\r".toList,
      " *   twice\u00a0".toList], ?_, by decide⟩
    exact .cons (.around [] ['*'] [' ', '\t'] ['\r'] (by simp)
        (by simp [Text.isBlank]) (Or.inr rfl))
      (.cons (.around ['\u3000'] " * Use:".toList ['\r'] []
        (by simp [Text.isBlank]) (by simp [Text.isBlank]) (Or.inl rfl))
      (.cons (.around [] " *   twice".toList ['\u00a0'] [] (by simp)
        (by simp [Text.isBlank]) (Or.inl rfl)) .nil))
  have htag : OpensTags "\t*\u2003@see".toList :=
    ⟨['\t'], ['*'], ['\u2003'], "see".toList, by simp,
      List.forall_mem_singleton.mpr rfl, Or.inr rfl,
      List.forall_mem_singleton.mpr rfl⟩
  exact ⟨(hreturns _).trans htext, (hrelaid _ _ hpadded).trans htext,
    (htags _ _ _ (by decide) htag).trans htext⟩

end ComponentDocs.DocComment
