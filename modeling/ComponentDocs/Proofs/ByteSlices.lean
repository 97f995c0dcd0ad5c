import ComponentDocs.Proofs.Slices
import ComponentDocs.Source.File

/-!
Slices of a text and the bytes of its UTF-8 form.

A slice is what stands between its two offsets, and there is one exactly if the
offsets are in order, inside the text, and no character goes on at either of
them. Its bytes are the bytes of the text between the offsets, so that slices can
be put together and cut again without a look at their characters.
-/

namespace ComponentDocs.Text

open Source

/-- An offset where no character goes on: between two of them, or at an end. -/
def IsBoundary (s : String) (offset : Nat) : Prop :=
  (String.Pos.Raw.mk offset).IsValid s

instance (s : String) (offset : Nat) : Decidable (IsBoundary s offset) :=
  inferInstanceAs (Decidable ((String.Pos.Raw.mk offset).IsValid s))

/-- A span that holds whole characters of a text. -/
structure Fits (s : String) (span : Span) : Prop where
  ordered : span.start ≤ span.stop
  inside : span.stop ≤ s.utf8ByteSize
  start : IsBoundary s span.start
  stop : IsBoundary s span.stop

/-! ### Boundaries -/

theorem isBoundary_iff {s : String} {offset : Nat} :
    IsBoundary s offset ↔
      ∃ front back : String, s = front ++ back ∧ front.utf8ByteSize = offset := by
  rw [IsBoundary, String.Pos.Raw.isValid_iff_exists_append]
  simp only [String.Pos.Raw.ext_iff, String.byteIdx_rawEndPos, eq_comm]

/-- Behind the front of a text, the boundaries are those of what is left. -/
theorem isBoundary_append_right (front : String) {rest : String} {offset : Nat} :
    IsBoundary (front ++ rest) (front.utf8ByteSize + offset) ↔
      IsBoundary rest offset := by
  constructor
  · intro hwhole
    rcases String.Pos.Raw.isValid_append.mp hwhole with hfront | ⟨-, hrest⟩
    · -- the offset is the place where the two texts meet
      have hle := hfront.le_utf8ByteSize
      obtain rfl : offset = 0 := by
        dsimp only at hle
        omega
      exact String.Pos.Raw.isValid_zero
    · have hsame : String.Pos.Raw.mk (front.utf8ByteSize + offset) - front =
          String.Pos.Raw.mk offset := by
        ext
        simp
      rw [IsBoundary, ← hsame]
      exact hrest
  · intro hrest
    exact hrest.append_left front

/-- Inside the front of a text, the boundaries are those of the front. -/
theorem isBoundary_append_left {front : String} {offset : Nat}
    (hinside : offset ≤ front.utf8ByteSize) (rest : String) :
    IsBoundary (front ++ rest) offset ↔ IsBoundary front offset := by
  constructor
  · intro hwhole
    rcases String.Pos.Raw.isValid_append.mp hwhole with hfront | ⟨hle, -⟩
    · exact hfront
    · apply String.Pos.Raw.isValid_of_eq_rawEndPos
      exact String.Pos.Raw.ext (Nat.le_antisymm hinside hle)
  · intro hfront
    exact hfront.append_right rest

/-! ### What a slice is -/

/-- Characters take as many bytes as the text that they make. -/
theorem width_eq_utf8ByteSize (cs : List Char) :
    width cs = (String.ofList cs).utf8ByteSize := by
  induction cs with
  | nil => rfl
  | cons c cs ih =>
      rw [← List.singleton_append, String.ofList_append,
        String.utf8ByteSize_append, ← ih]
      simp [width]

theorem sliceChars_eq_some_iff {cs piece : List Char} {span : Span} :
    sliceChars cs span = some piece ↔
      ∃ front back, cs = front ++ piece ++ back ∧
        width front = span.start ∧ width (front ++ piece) = span.stop := by
  rw [sliceChars]
  constructor
  · intro hslice
    split at hslice
    · rename_i hle
      obtain ⟨⟨front, tail⟩, hfront, hrest⟩ := Option.bind_eq_some_iff.mp hslice
      obtain ⟨⟨inside, back⟩, hinside, hpiece⟩ := Option.bind_eq_some_iff.mp hrest
      obtain rfl := Option.some.inj hpiece
      obtain ⟨rfl, hstart⟩ := splitBytes_eq_some_iff.mp hfront
      obtain ⟨rfl, hsize⟩ := splitBytes_eq_some_iff.mp hinside
      refine ⟨front, back, (List.append_assoc ..).symm, hstart, ?_⟩
      rw [width_append]
      omega
    · exact absurd hslice (by simp)
  · rintro ⟨front, back, rfl, hstart, hstop⟩
    rw [width_append] at hstop
    have hfront : splitBytes span.start (front ++ piece ++ back) =
        some (front, piece ++ back) :=
      splitBytes_eq_some_iff.mpr ⟨List.append_assoc .., hstart⟩
    have hpiece : splitBytes (span.stop - span.start) (piece ++ back) =
        some (piece, back) :=
      splitBytes_eq_some_iff.mpr ⟨rfl, by omega⟩
    rw [if_pos (by omega), hfront]
    simp [hpiece]

/-- A slice is what stands between its offsets. -/
theorem slice_eq_some_iff {s piece : String} {span : Span} :
    slice s span = some piece ↔
      ∃ front back : String, s = front ++ piece ++ back ∧
        front.utf8ByteSize = span.start ∧
        (front ++ piece).utf8ByteSize = span.stop := by
  simp only [slice, Option.map_eq_some_iff, sliceChars_eq_some_iff]
  constructor
  · rintro ⟨chars, ⟨front, back, htext, hstart, hstop⟩, rfl⟩
    refine ⟨String.ofList front, String.ofList back, ?_, ?_, ?_⟩
    · rw [← String.ofList_append, ← String.ofList_append, ← htext,
        String.ofList_toList]
    · rw [← width_eq_utf8ByteSize, hstart]
    · rw [← String.ofList_append, ← width_eq_utf8ByteSize, hstop]
  · rintro ⟨front, back, rfl, hstart, hstop⟩
    refine ⟨piece.toList, ⟨front.toList, back.toList, ?_, ?_, ?_⟩,
      String.ofList_toList⟩
    · rw [String.toList_append, String.toList_append]
    · rw [width_eq_utf8ByteSize, String.ofList_toList, hstart]
    · rw [← String.toList_append, width_eq_utf8ByteSize, String.ofList_toList,
        hstop]

/-- Only offsets that fit have a slice between them. -/
theorem fits_of_slice {s piece : String} {span : Span}
    (hslice : slice s span = some piece) : Fits s span := by
  obtain ⟨front, back, rfl, hstart, hstop⟩ := slice_eq_some_iff.mp hslice
  refine ⟨?_, ?_, ?_, ?_⟩
  · rw [← hstart, ← hstop, String.utf8ByteSize_append]
    exact Nat.le_add_right ..
  · rw [← hstop, String.utf8ByteSize_append (s := front ++ piece)]
    exact Nat.le_add_right ..
  · exact isBoundary_iff.mpr
      ⟨front, piece ++ back, String.append_assoc .., hstart⟩
  · exact isBoundary_iff.mpr ⟨front ++ piece, back, rfl, hstop⟩

theorem slice_isSome_iff {s : String} {span : Span} :
    (slice s span).isSome ↔ Fits s span := by
  constructor
  · intro hsome
    obtain ⟨piece, hslice⟩ := Option.isSome_iff_exists.mp hsome
    exact fits_of_slice hslice
  · rintro ⟨hle, -, hstart, hstop⟩
    obtain ⟨front, rest, rfl, hfront⟩ := isBoundary_iff.mp hstart
    obtain ⟨size, hsize⟩ := Nat.exists_eq_add_of_le hle
    -- the second offset is a boundary of what stands behind the first one
    rw [hsize, ← hfront, isBoundary_append_right] at hstop
    obtain ⟨piece, back, rfl, hpiece⟩ := isBoundary_iff.mp hstop
    have hslice : slice (front ++ (piece ++ back)) span = some piece := by
      rw [slice_eq_some_iff]
      refine ⟨front, back, (String.append_assoc ..).symm, hfront, ?_⟩
      rw [String.utf8ByteSize_append, hfront, hpiece, hsize]
    exact Option.isSome_of_eq_some hslice

theorem exists_slice {s : String} {a b : Nat} (hle : a ≤ b)
    (hstart : IsBoundary s a) (hstop : IsBoundary s b) :
    ∃ piece, slice s ⟨a, b⟩ = some piece := by
  have hinside : b ≤ s.utf8ByteSize := hstop.le_utf8ByteSize
  exact Option.isSome_iff_exists.mp
    (slice_isSome_iff.mpr ⟨hle, hinside, hstart, hstop⟩)

theorem toByteArray_of_slice {s piece : String} {span : Span}
    (hslice : slice s span = some piece) :
    piece.toByteArray = s.toByteArray.extract span.start span.stop := by
  obtain ⟨front, back, rfl, hstart, hstop⟩ := slice_eq_some_iff.mp hslice
  rw [← hstart, ← hstop, ← String.size_toByteArray, ← String.size_toByteArray,
    String.toByteArray_append (s := front ++ piece),
    ByteArray.extract_append_size_left, String.toByteArray_append]
  exact (ByteArray.extract_append_eq_right rfl ByteArray.size_append).symm

/-- A slice is known by its offsets and its bytes. -/
theorem slice_eq_some_of_bytes {s piece : String} {span : Span}
    (hfits : Fits s span)
    (hbytes : piece.toByteArray = s.toByteArray.extract span.start span.stop) :
    slice s span = some piece := by
  obtain ⟨found, hfound⟩ :=
    Option.isSome_iff_exists.mp (slice_isSome_iff.mpr hfits)
  have hsame := (toByteArray_of_slice hfound).trans hbytes.symm
  rw [hfound, String.toByteArray_inj.mp hsame]

/-! ### Slices of slices -/

/-- Slices that meet make up the slice that they cover. -/
theorem slice_trans {s first second : String} {a b c : Nat}
    (hfirst : slice s ⟨a, b⟩ = some first)
    (hsecond : slice s ⟨b, c⟩ = some second) :
    slice s ⟨a, c⟩ = some (first ++ second) := by
  obtain ⟨hle, -, hstart, -⟩ := fits_of_slice hfirst
  obtain ⟨hmore, hinside, -, hstop⟩ := fits_of_slice hsecond
  refine slice_eq_some_of_bytes
    ⟨Nat.le_trans hle hmore, hinside, hstart, hstop⟩ ?_
  rw [String.toByteArray_append, toByteArray_of_slice hfirst,
    toByteArray_of_slice hsecond]
  exact (ByteArray.extract_eq_extract_append_extract b hle hmore).symm

theorem utf8ByteSize_of_slice {s piece : String} {a b : Nat}
    (hslice : slice s ⟨a, b⟩ = some piece) : a + piece.utf8ByteSize = b := by
  obtain ⟨front, back, -, hstart, hstop⟩ := slice_eq_some_iff.mp hslice
  rw [String.utf8ByteSize_append, hstart] at hstop
  exact hstop

/-- The boundaries of a slice are the boundaries of the text inside it. -/
theorem isBoundary_inside_iff {s piece : String} {a b offset : Nat}
    (hslice : slice s ⟨a, b⟩ = some piece) (hinside : a + offset ≤ b) :
    IsBoundary piece offset ↔ IsBoundary s (a + offset) := by
  have hsize := utf8ByteSize_of_slice hslice
  have hwithin : offset ≤ piece.utf8ByteSize := by omega
  obtain ⟨front, back, rfl, hstart, -⟩ := slice_eq_some_iff.mp hslice
  have hfront : front.utf8ByteSize = a := hstart
  rw [← hfront, String.append_assoc, isBoundary_append_right,
    isBoundary_append_left hwithin]

theorem fits_inside_iff {s piece : String} {a b i j : Nat}
    (hslice : slice s ⟨a, b⟩ = some piece) (hinside : a + j ≤ b) :
    Fits piece ⟨i, j⟩ ↔ Fits s ⟨a + i, a + j⟩ := by
  have hsize := utf8ByteSize_of_slice hslice
  have hwhole : b ≤ s.utf8ByteSize := (fits_of_slice hslice).inside
  constructor
  · rintro ⟨hle, -, hstart, hstop⟩
    have hle : i ≤ j := hle
    have hbegin : a + i ≤ b := by omega
    exact ⟨Nat.add_le_add_left hle a, Nat.le_trans hinside hwhole,
      (isBoundary_inside_iff hslice hbegin).mp hstart,
      (isBoundary_inside_iff hslice hinside).mp hstop⟩
  · rintro ⟨hle, -, hstart, hstop⟩
    have hle : i ≤ j := Nat.le_of_add_le_add_left hle
    have hbegin : a + i ≤ b := by omega
    have hwithin : j ≤ piece.utf8ByteSize := by omega
    exact ⟨hle, hwithin,
      (isBoundary_inside_iff hslice hbegin).mpr hstart,
      (isBoundary_inside_iff hslice hinside).mpr hstop⟩

/-- Inside a slice, offsets count from its start. -/
theorem slice_slice {s piece : String} {a b j : Nat}
    (hslice : slice s ⟨a, b⟩ = some piece) (hinside : a + j ≤ b) (i : Nat) :
    slice piece ⟨i, j⟩ = slice s ⟨a + i, a + j⟩ := by
  have hfits := fits_inside_iff (i := i) hslice hinside
  cases hinner : slice piece ⟨i, j⟩ with
  | none =>
      have hnot : ¬ Fits piece ⟨i, j⟩ := by
        rw [← slice_isSome_iff, hinner]
        simp
      rw [hfits, ← slice_isSome_iff, Option.not_isSome_iff_eq_none] at hnot
      exact hnot.symm
  | some inner =>
      refine (slice_eq_some_of_bytes (hfits.mp (fits_of_slice hinner)) ?_).symm
      rw [toByteArray_of_slice hinner, toByteArray_of_slice hslice,
        ByteArray.extract_extract, Nat.min_eq_left hinside]

theorem textAt_eq_empty_iff {s : String} {span : Span} :
    textAt s span = "" ↔ slice s span = none ∨ slice s span = some "" := by
  rw [textAt]
  cases slice s span <;> simp

/--
Slicing by bytes is exact and additive. There is a slice between two offsets
exactly if they are in order, inside the text and boundaries of it, and its bytes
are those of the text between the offsets. Slices that meet make up one slice, a
slice is cut as the text is cut at offsets further on, and a span of a file shows
no text exactly if its slice is missing or empty.
-/
theorem slices_are_exact_and_additive (s : String) :
    (∀ span, (slice s span).isSome ↔ Fits s span) ∧
    (∀ span piece, slice s span = some piece →
      piece.toByteArray = s.toByteArray.extract span.start span.stop) ∧
    (∀ a b c, a ≤ b → b ≤ c → IsBoundary s a → IsBoundary s b → IsBoundary s c →
      ∃ first second,
        slice s ⟨a, b⟩ = some first ∧ slice s ⟨b, c⟩ = some second ∧
        slice s ⟨a, c⟩ = some (first ++ second)) ∧
    (∀ a b i j piece, slice s ⟨a, b⟩ = some piece → a + j ≤ b →
      slice piece ⟨i, j⟩ = slice s ⟨a + i, a + j⟩) ∧
    ∀ statements docs span,
      (File.mk s statements docs).textOf span = "" ↔
        slice s span = none ∨ slice s span = some "" := by
  refine ⟨fun _ => slice_isSome_iff, fun _ _ => toByteArray_of_slice, ?_, ?_, ?_⟩
  · intro a b c hab hbc ha hb hc
    obtain ⟨first, hfirst⟩ := exists_slice hab ha hb
    obtain ⟨second, hsecond⟩ := exists_slice hbc hb hc
    exact ⟨first, second, hfirst, hsecond, slice_trans hfirst hsecond⟩
  · intro a b i j piece hslice hinside
    exact slice_slice hslice hinside i
  · intro statements docs span
    exact textAt_eq_empty_iff

/-- Characters of one, two, three and four bytes. -/
def widths : String := "aé→𝄞"

theorem slices_of_widths :
    slice widths ⟨2, 6⟩ = none ∧
    (∃ first second,
      slice widths ⟨1, 3⟩ = some first ∧ slice widths ⟨3, 10⟩ = some second ∧
      slice widths ⟨1, 10⟩ = some (first ++ second)) ∧
    slice widths ⟨1, 6⟩ = some "é→" ∧
    "é→".toByteArray = widths.toByteArray.extract 1 6 ∧
    slice "é→" ⟨2, 5⟩ = slice widths ⟨3, 6⟩ := by
  obtain ⟨hsome, hbytes, htrans, hinner, -⟩ :=
    slices_are_exact_and_additive widths
  have hslice : slice widths ⟨1, 6⟩ = some "é→" := by decide
  refine ⟨?_, ?_, hslice, hbytes _ _ hslice, hinner 1 6 2 5 _ hslice (by decide)⟩
  · -- the second byte of a character is no boundary
    have hnot : ¬ Fits widths ⟨2, 6⟩ :=
      fun hfits => absurd hfits.start (by decide)
    rw [← hsome, Option.not_isSome_iff_eq_none] at hnot
    exact hnot
  · exact htrans 1 3 10 (by decide) (by decide) (by decide) (by decide) (by decide)

end ComponentDocs.Text
