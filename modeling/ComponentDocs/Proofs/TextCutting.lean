import ComponentDocs.Text.Blank
import ComponentDocs.Text.Lines
import Mathlib.Data.List.DropRight
import Mathlib.Data.List.Forall2

/-!
Cutting text: blanks at its edges, separators and lines.

Trimming leaves a text that is bare, and changes nothing else than blanks at the
edges. Splitting at a character undoes joining with it, and so does splitting
into lines, as long as no line could be mistaken for a shorter one. The lines of a
text are its pieces between line feeds, up to carriage returns at their ends and
an empty piece behind the last line feed.
-/

namespace ComponentDocs.Text

/-! ### Trimming -/

/-- Neither the first nor the last character is a blank. -/
structure Bare (cs : List Char) : Prop where
  first : cs.head?.any isBlank = false
  last : cs.getLast?.any isBlank = false

theorem trimStart_eq_self_iff {cs : List Char} :
    trimStart cs = cs ↔ cs.head?.any isBlank = false := by
  cases cs with
  | nil => simp [trimStart, trimStartWhile]
  | cons c cs => simp [trimStart, trimStartWhile, List.dropWhile_eq_self_iff]

theorem trimEnd_eq_self_iff {cs : List Char} :
    trimEnd cs = cs ↔ cs.getLast?.any isBlank = false := by
  change cs.rdropWhile isBlank = cs ↔ _
  rw [List.rdropWhile_eq_self_iff]
  rcases List.eq_nil_or_concat cs with rfl | ⟨front, c, rfl⟩ <;> simp

theorem head?_trimStart (cs : List Char) :
    (trimStart cs).head?.any isBlank = false :=
  trimStart_eq_self_iff.mp (List.dropWhile_idempotent isBlank cs)

theorem getLast?_trimEnd (cs : List Char) :
    (trimEnd cs).getLast?.any isBlank = false :=
  trimEnd_eq_self_iff.mp (List.rdropWhile_idempotent isBlank cs)

theorem trimStart_suffix (cs : List Char) : trimStart cs <:+ cs :=
  List.dropWhile_suffix isBlank

theorem trimEnd_prefix (cs : List Char) : trimEnd cs <+: cs :=
  List.rdropWhile_prefix isBlank cs

theorem trimStart_eq_nil_iff {cs : List Char} :
    trimStart cs = [] ↔ ∀ c ∈ cs, isBlank c = true :=
  List.dropWhile_eq_nil_iff

/-- Trimming is done when both edges are bare. -/
theorem trim_eq_self {cs : List Char} (hbare : Bare cs) : trim cs = cs := by
  rw [trim, trimStart_eq_self_iff.mpr hbare.first,
    trimEnd_eq_self_iff.mpr hbare.last]

theorem trim_bare (cs : List Char) : Bare (trim cs) := by
  refine ⟨?_, getLast?_trimEnd _⟩
  obtain ⟨cut, hcut⟩ := trimEnd_prefix (trimStart cs)
  rw [trim]
  cases hfirst : trimEnd (trimStart cs) with
  | nil => rfl
  | cons c rest =>
      have hstart := head?_trimStart cs
      rw [← hcut, hfirst] at hstart
      exact hstart

theorem trimEnd_append_blank (cs : List Char) {blank : List Char}
    (hblank : ∀ c ∈ blank, isBlank c = true) :
    trimEnd (cs ++ blank) = trimEnd cs := by
  have hreverse : ∀ c ∈ blank.reverse, isBlank c = true := by simpa using hblank
  rw [trimEnd, trimEndWhile, List.reverse_append,
    List.dropWhile_append_of_pos hreverse]
  rfl

theorem trimStart_blank_append {blank : List Char}
    (hblank : ∀ c ∈ blank, isBlank c = true) (cs : List Char) :
    trimStart (blank ++ cs) = trimStart cs :=
  List.dropWhile_append_of_pos hblank

theorem trimStart_append {cs : List Char} (hsome : trimStart cs ≠ [])
    (more : List Char) : trimStart (cs ++ more) = trimStart cs ++ more := by
  have hstops : ¬(cs.dropWhile isBlank).isEmpty := by
    rw [List.isEmpty_iff]
    exact hsome
  rw [trimStart, trimStartWhile, List.dropWhile_append, if_neg hstops]
  rfl

/-- Blanks around a text are no part of what trimming leaves. -/
theorem trim_around {front back : List Char} (cs : List Char)
    (hfront : ∀ c ∈ front, isBlank c = true)
    (hback : ∀ c ∈ back, isBlank c = true) :
    trim (front ++ cs ++ back) = trim cs := by
  rw [trim, List.append_assoc, trimStart_blank_append hfront, trim]
  by_cases hcs : trimStart cs = []
  · rw [trimStart_blank_append (trimStart_eq_nil_iff.mp hcs), hcs,
      trimStart_eq_nil_iff.mpr hback]
  · rw [trimStart_append hcs, trimEnd_append_blank _ hback]

/-- What stands before a character that is no blank is not trimmed. -/
theorem trimEnd_append_cons {c : Char} (hc : isBlank c = false)
    (front rest : List Char) :
    trimEnd (front ++ c :: rest) = front ++ c :: trimEnd rest := by
  simp only [trimEnd, trimEndWhile, List.reverse_append, List.reverse_cons,
    List.append_assoc, List.singleton_append, List.dropWhile_append,
    List.dropWhile_cons, hc]
  split
  · rename_i hnone
    rw [List.isEmpty_iff.mp hnone]
    simp
  · simp

/-! ### Separators -/

/-- Recursion that puts a separator between parts is `intercalate`. -/
theorem eq_intercalate {α β : Type} {f : List α → List β} {part : α → List β}
    {separator : β} (hnil : f [] = []) (hone : ∀ a, f [a] = part a)
    (hmore : ∀ a next rest,
      f (a :: next :: rest) = part a ++ separator :: f (next :: rest))
    (parts : List α) : f parts = [separator].intercalate (parts.map part) := by
  induction parts with
  | nil => exact hnil
  | cons a parts ih =>
      cases parts with
      | nil => simpa using hone a
      | cons next rest =>
          rw [hmore, ih]
          simp only [List.map_cons, List.intercalate_cons_cons,
            List.append_assoc, List.singleton_append]

theorem joinWith_eq_intercalate (sep : Char) (pieces : List (List Char)) :
    joinWith sep pieces = [sep].intercalate pieces := by
  have hpieces : joinWith sep pieces = [sep].intercalate (pieces.map id) :=
    eq_intercalate rfl (fun _ => rfl) (fun _ _ _ => rfl) pieces
  rwa [List.map_id] at hpieces

theorem joinWith_cons (sep : Char) (piece : List Char)
    {pieces : List (List Char)} (hmore : pieces ≠ []) :
    joinWith sep (piece :: pieces) = piece ++ sep :: joinWith sep pieces := by
  obtain ⟨next, rest, rfl⟩ := List.exists_cons_of_ne_nil hmore
  rfl

theorem joinWith_concat (sep : Char) {pieces : List (List Char)}
    (hmore : pieces ≠ []) (piece : List Char) :
    joinWith sep (pieces ++ [piece]) = joinWith sep pieces ++ sep :: piece := by
  induction pieces with
  | nil => exact absurd rfl hmore
  | cons first pieces ih =>
      rw [List.cons_append, joinWith_cons sep first (by simp)]
      cases pieces with
      | nil => rfl
      | cons next rest =>
          rw [ih (List.cons_ne_nil next rest),
            joinWith_cons sep first (List.cons_ne_nil next rest)]
          simp

theorem splitAtChar_eq_splitOn (sep : Char) (cs : List Char) :
    splitAtChar sep cs = cs.splitOn sep := by
  induction cs with
  | nil => rfl
  | cons c cs ih =>
      rw [splitAtChar, ih, List.splitOn_cons_eq_if_modifyHead]
      simp only [beq_iff_eq]
      split
      · rfl
      · cases hpieces : cs.splitOn sep with
        | nil => exact absurd hpieces (List.splitOn_ne_nil sep cs)
        | cons piece pieces => rfl

theorem joinWith_splitAtChar (sep : Char) (cs : List Char) :
    joinWith sep (splitAtChar sep cs) = cs := by
  rw [joinWith_eq_intercalate, splitAtChar_eq_splitOn, List.intercalate_splitOn]

theorem splitAtChar_joinWith {sep : Char} {pieces : List (List Char)}
    (hpieces : ∀ piece ∈ pieces, sep ∉ piece) (hsome : pieces ≠ []) :
    splitAtChar sep (joinWith sep pieces) = pieces := by
  rw [splitAtChar_eq_splitOn, joinWith_eq_intercalate,
    List.splitOn_intercalate sep hpieces hsome]

theorem splitAtChar_ne_nil (sep : Char) (cs : List Char) :
    splitAtChar sep cs ≠ [] := by
  rw [splitAtChar_eq_splitOn]
  exact List.splitOn_ne_nil sep cs

theorem splitAtChar_append (sep : Char) (first second : List Char) :
    splitAtChar sep (first ++ sep :: second) =
      splitAtChar sep first ++ splitAtChar sep second := by
  simp only [splitAtChar_eq_splitOn, List.splitOn_append_cons_self]

theorem splitAtChar_of_not_mem {sep : Char} {cs : List Char} (hsep : sep ∉ cs) :
    splitAtChar sep cs = [cs] := by
  rw [splitAtChar_eq_splitOn, List.splitOn_eq_singleton hsep]

/-- A character that separates nothing goes to the front of the first piece. -/
theorem splitAtChar_cons {sep c : Char} (hc : c ≠ sep) (cs : List Char) :
    ∃ piece pieces, splitAtChar sep cs = piece :: pieces ∧
      splitAtChar sep (c :: cs) = (c :: piece) :: pieces := by
  obtain ⟨piece, pieces, hpieces⟩ :=
    List.exists_cons_of_ne_nil (splitAtChar_ne_nil sep cs)
  refine ⟨piece, pieces, hpieces, ?_⟩
  rw [splitAtChar, if_neg hc, hpieces]

/-- What is related to the pieces of a text piece by piece is not empty. -/
theorem ne_nil_of_splitAtChar {sep : Char} {cs : List Char}
    {related : List Char → List Char → Prop} {pieces : List (List Char)}
    (hpieces : List.Forall₂ related (splitAtChar sep cs) pieces) :
    pieces ≠ [] := by
  rintro rfl
  exact splitAtChar_ne_nil sep cs (List.forall₂_nil_right_iff.mp hpieces)

/-- A piece between separators holds none of them. -/
theorem not_mem_of_mem_splitAtChar {sep : Char} {cs piece : List Char}
    (hpiece : piece ∈ splitAtChar sep cs) : sep ∉ piece := by
  induction cs generalizing piece with
  | nil =>
      rw [List.mem_singleton.mp hpiece]
      exact List.not_mem_nil
  | cons c cs ih =>
      rw [splitAtChar] at hpiece
      split at hpiece
      · rcases List.mem_cons.mp hpiece with rfl | hrest
        · exact List.not_mem_nil
        · exact ih hrest
      · rename_i hc
        cases hpieces : splitAtChar sep cs with
        | nil =>
            simp only [hpieces, List.mem_singleton] at hpiece
            simpa [hpiece] using Ne.symm hc
        | cons first rest =>
            simp only [hpieces, List.mem_cons] at hpiece ih
            rcases hpiece with rfl | hrest
            · rw [List.mem_cons, not_or]
              exact ⟨Ne.symm hc, ih (.inl rfl)⟩
            · exact ih (.inr hrest)

/-! ### Lines -/

theorem newline_not_mem_of_mem_lines {cs line : List Char}
    (hline : line ∈ lines cs) : '\n' ∉ line := by
  fun_induction lines cs generalizing line with
  | case1 => exact absurd hline List.not_mem_nil
  | case2 rest ih =>
      rcases List.mem_cons.mp hline with rfl | hrest
      · exact List.not_mem_nil
      · exact ih hrest
  | case3 rest ih =>
      rcases List.mem_cons.mp hline with rfl | hrest
      · exact List.not_mem_nil
      · exact ih hrest
  | case4 c rest hnewline hreturn hnone ih =>
      rw [List.mem_singleton.mp hline]
      simpa using Ne.symm hnewline
  | case5 c rest hnewline hreturn first others hlines ih =>
      rw [hlines] at ih
      rcases List.mem_cons.mp hline with rfl | hrest
      · rw [List.mem_cons, not_or]
        exact ⟨Ne.symm hnewline, ih List.mem_cons_self⟩
      · exact ih (List.mem_cons_of_mem first hrest)

/-- A character that ends no line goes to the front of the first one. -/
theorem lines_cons {c : Char} {rest : List Char} (hc : c ≠ '\n')
    (hnext : rest.head? ≠ some '\n' ∨ c ≠ '\r') :
    lines (c :: rest) =
      match lines rest with
      | [] => [[c]]
      | line :: others => (c :: line) :: others := by
  have hpair : ∀ behind, c = '\r' → rest = '\n' :: behind → False := by
    rintro behind rfl rfl
    rcases hnext with hnext | hnext
    · exact hnext rfl
    · exact hnext rfl
  refine (lines.eq_4 c rest hc hpair).trans ?_
  cases lines rest <;> rfl

/-- A line feed ends a line, unless a carriage return stands before it. -/
theorem lines_append {line : List Char} (hline : '\n' ∉ line)
    (hreturn : line.getLast? ≠ some '\r') (rest : List Char) :
    lines (line ++ '\n' :: rest) = line :: lines rest := by
  induction line with
  | nil => rw [List.nil_append, lines]
  | cons c line ih =>
      rw [List.mem_cons, not_or] at hline
      have hlast : line.getLast? ≠ some '\r' := by
        intro hlast
        apply hreturn
        rw [List.getLast?_cons, hlast]
        rfl
      have hnext : (line ++ '\n' :: rest).head? ≠ some '\n' ∨ c ≠ '\r' := by
        cases line with
        | nil =>
            right
            rintro rfl
            exact hreturn rfl
        | cons d line =>
            left
            intro hd
            exact hline.2 (List.mem_of_mem_head? hd)
      rw [List.cons_append, lines_cons (Ne.symm hline.1) hnext, ih hline.2 hlast]

theorem lines_of_not_mem {line : List Char} (hline : '\n' ∉ line)
    (hsome : line ≠ []) : lines line = [line] := by
  induction line with
  | nil => exact absurd rfl hsome
  | cons c line ih =>
      rw [List.mem_cons, not_or] at hline
      have hnext : line.head? ≠ some '\n' :=
        fun hhead => hline.2 (List.mem_of_mem_head? hhead)
      rw [lines_cons (Ne.symm hline.1) (.inl hnext)]
      cases line with
      | nil => rfl
      | cons d line => rw [ih hline.2 (List.cons_ne_nil d line)]

/-- Splitting into lines undoes joining them, if the last one is not empty. -/
theorem lines_joinWith {pieces : List (List Char)} {last : List Char}
    (hpieces : ∀ piece ∈ pieces, '\n' ∉ piece ∧ piece.getLast? ≠ some '\r')
    (hlast : '\n' ∉ last) (hsome : last ≠ []) :
    lines (joinWith '\n' (pieces ++ [last])) = pieces ++ [last] := by
  induction pieces with
  | nil => exact lines_of_not_mem hlast hsome
  | cons piece pieces ih =>
      rw [List.forall_mem_cons] at hpieces
      rw [List.cons_append, joinWith_cons _ _ (by simp),
        lines_append hpieces.1.1 hpieces.1.2, ih hpieces.2]

/-- The second text is the first one, or has a carriage return behind it. -/
def ReturnAdded (line piece : List Char) : Prop :=
  piece = line ∨ piece = line ++ ['\r']

theorem ReturnAdded.cons {line piece : List Char} (c : Char)
    (hpiece : ReturnAdded line piece) : ReturnAdded (c :: line) (c :: piece) := by
  rcases hpiece with rfl | rfl
  · exact Or.inl rfl
  · exact Or.inr rfl

/--
The lines of a text are its pieces, but for carriage returns and for an empty
piece at the end.
-/
theorem lines_returnAdded (cs : List Char) :
    ∃ pieces, List.Forall₂ ReturnAdded (lines cs) pieces ∧
      (splitAtChar '\n' cs = pieces ∨ splitAtChar '\n' cs = pieces ++ [[]]) := by
  fun_induction lines cs with
  | case1 => exact ⟨[], .nil, Or.inr rfl⟩
  | case2 rest ih =>
      obtain ⟨pieces, hlines, hsplit⟩ := ih
      refine ⟨[] :: pieces, .cons (Or.inl rfl) hlines, ?_⟩
      rw [splitAtChar, if_pos rfl]
      exact hsplit.imp (congrArg _) (congrArg _)
  | case3 rest ih =>
      obtain ⟨pieces, hlines, hsplit⟩ := ih
      refine ⟨['\r'] :: pieces, .cons (Or.inr rfl) hlines, ?_⟩
      exact hsplit.imp (congrArg (['\r'] :: ·)) (congrArg (['\r'] :: ·))
  | case4 c rest hnewline hreturn hnone ih =>
      obtain ⟨pieces, hlines, hsplit⟩ := ih
      rw [hnone, List.forall₂_nil_left_iff] at hlines
      obtain ⟨piece, others, hrest, hwhole⟩ := splitAtChar_cons hnewline rest
      have hlast : piece :: others = [[]] := by
        simpa [hlines, hrest] using hsplit
      obtain ⟨rfl, rfl⟩ := List.cons.inj hlast
      exact ⟨[[c]], .cons (Or.inl rfl) .nil, Or.inl hwhole⟩
  | case5 c rest hnewline hreturn line others hsome ih =>
      obtain ⟨pieces, hlines, hsplit⟩ := ih
      rw [hsome] at hlines
      obtain ⟨first, back, hfirst, hback, rfl⟩ := List.forall₂_cons_left_iff.mp hlines
      obtain ⟨piece, more, hrest, hwhole⟩ := splitAtChar_cons hnewline rest
      refine ⟨(c :: first) :: back, .cons (hfirst.cons c) hback, ?_⟩
      rw [hrest, List.cons_append, List.cons.injEq, List.cons.injEq] at hsplit
      rw [hwhole, List.cons_append]
      rcases hsplit with ⟨rfl, rfl⟩ | ⟨rfl, rfl⟩
      · exact Or.inl rfl
      · exact Or.inr rfl

end ComponentDocs.Text
