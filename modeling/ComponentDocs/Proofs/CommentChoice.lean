import ComponentDocs.Source.File
import ComponentDocs.Proofs.OrderedMap

/-!
Which comment documents a node.

Two choices are made in opposite directions. Of the comments at one offset the
last one counts, since the table is filled from the front and later comments
overwrite earlier ones; of the offsets of a node the first one counts that has
any comment. A comment that is chosen may say nothing, and then the node is
described by nothing, whatever its other offsets have.
-/

namespace ComponentDocs.Source

/-- Whether a comment documents what starts at an offset. -/
def Comment.documentsAt (comment : Comment) (anchor : Nat) : Bool :=
  comment.documents && comment.anchor = anchor

/-- Whether a comment documents what starts at one of some offsets. -/
def Comment.concerns (comment : Comment) (anchors : List Nat) : Bool :=
  anchors.any comment.documentsAt

/-- The last of some comments that documents what starts at an offset. -/
def LastDocumenting (comments : List Comment) (anchor : Nat)
    (comment : Comment) : Prop :=
  ∃ earlier later, comments = earlier ++ comment :: later ∧
    comment.documentsAt anchor ∧ ∀ other ∈ later, ¬ other.documentsAt anchor

/-- What starts at an offset has no documentation. -/
def Undocumented (comments : List Comment) (anchor : Nat) : Prop :=
  ∀ comment ∈ comments, ¬ comment.documentsAt anchor

/-- How the comments of a text describe a node that may start at some offsets. -/
inductive Described (text : String) (comments : List Comment)
    (anchors : List Nat) : String → Prop
  /-- The first offset with documentation counts, and the last comment there. -/
  | found {before after : List Nat} {anchor : Nat} {comment : Comment} :
      anchors = before ++ anchor :: after →
      (∀ other ∈ before, Undocumented comments other) →
      LastDocumenting comments anchor comment →
      Described text comments anchors
        (DocComment.text (Text.textAt text comment.text))
  /-- Without documentation at any offset there is nothing to say. -/
  | missing : (∀ anchor ∈ anchors, Undocumented comments anchor) →
      Described text comments anchors ""

/-! ### The table -/

/-- The table is made of the comments that document something, in their order. -/
theorem commentTable_eq_ofList (comments : List Comment) :
    commentTable comments = OrderedMap.ofList
      ((comments.filter Comment.documents).map fun comment =>
        (comment.anchor, comment.text)) := by
  rw [OrderedMap.ofList, OrderedMap.insertAll, List.foldl_map, List.foldl_filter]
  rfl

theorem get?_commentTable (comments : List Comment) (anchor : Nat) :
    (commentTable comments).get? anchor =
      ((comments.filter (·.documentsAt anchor)).getLast?).map Comment.text := by
  have hfilter : (comments.filter Comment.documents).filter
      (fun comment => comment.anchor = anchor) =
        comments.filter (·.documentsAt anchor) := by
    rw [List.filter_filter]
    apply List.filter_congr
    intro comment _
    exact Bool.and_comm ..
  rw [commentTable_eq_ofList, OrderedMap.get?_ofList_eq_getLast?, List.filter_map,
    List.map_map, ← List.getLast?_map, ← hfilter]
  rfl

theorem get?_commentTable_eq_none_iff {comments : List Comment} {anchor : Nat} :
    (commentTable comments).get? anchor = none ↔ Undocumented comments anchor := by
  rw [get?_commentTable, Option.map_eq_none_iff, List.getLast?_eq_none_iff,
    List.filter_eq_nil_iff]
  rfl

/-- The last comment of an offset is the last one that a search keeps. -/
theorem getLast?_filter_eq_some_iff {comments : List Comment} {anchor : Nat}
    {comment : Comment} :
    (comments.filter (·.documentsAt anchor)).getLast? = some comment ↔
      LastDocumenting comments anchor comment := by
  constructor
  · intro hlast
    obtain ⟨front, hfront⟩ := List.getLast?_eq_some_iff.mp hlast
    obtain ⟨before, after, rfl, -, hafter⟩ := List.filter_eq_append_iff.mp hfront
    obtain ⟨between, later, rfl, -, hcomment, hlater⟩ :=
      List.filter_eq_cons_iff.mp hafter
    exact ⟨before ++ between, later, (List.append_assoc ..).symm, hcomment,
      List.filter_eq_nil_iff.mp hlater⟩
  · rintro ⟨earlier, later, rfl, hcomment, hlater⟩
    have hrest : (comment :: later).filter (·.documentsAt anchor) = [comment] := by
      rw [List.filter_cons, if_pos hcomment, List.filter_eq_nil_iff.mpr hlater]
    rw [List.filter_append, hrest, List.getLast?_concat]

theorem get?_commentTable_eq_some_iff {comments : List Comment} {anchor : Nat}
    {span : Span} :
    (commentTable comments).get? anchor = some span ↔
      ∃ comment, LastDocumenting comments anchor comment ∧ comment.text = span := by
  simp only [get?_commentTable, Option.map_eq_some_iff,
    getLast?_filter_eq_some_iff]

/-! ### The choice -/

/-- What the table gives for some offsets is what the comments say. -/
theorem commentAt_described (text : String) (comments : List Comment)
    (anchors : List Nat) :
    Described text comments anchors
      (commentAt text (commentTable comments) anchors) := by
  unfold commentAt
  cases hfound : anchors.findSome? (commentTable comments).get? with
  | none =>
      apply Described.missing
      intro anchor hanchor
      exact get?_commentTable_eq_none_iff.mp
        (List.findSome?_eq_none_iff.mp hfound anchor hanchor)
  | some span =>
      obtain ⟨before, anchor, after, hanchors, hspan, hbefore⟩ :=
        List.findSome?_eq_some_iff.mp hfound
      obtain ⟨comment, hlast, rfl⟩ := get?_commentTable_eq_some_iff.mp hspan
      refine .found hanchors ?_ hlast
      intro other hother
      exact get?_commentTable_eq_none_iff.mp (hbefore other hother)

/-- Comments do not describe a node in two ways. -/
theorem Described.commentAt_eq {text description : String}
    {comments : List Comment} {anchors : List Nat}
    (hdescribed : Described text comments anchors description) :
    commentAt text (commentTable comments) anchors = description := by
  unfold commentAt
  cases hdescribed with
  | @found before after anchor comment hanchors hbefore hlast =>
      have hfound : anchors.findSome? (commentTable comments).get? =
          some comment.text := by
        refine List.findSome?_eq_some_iff.mpr ⟨before, anchor, after, hanchors,
          get?_commentTable_eq_some_iff.mpr ⟨comment, hlast, rfl⟩, ?_⟩
        intro other hother
        exact get?_commentTable_eq_none_iff.mpr (hbefore other hother)
      rw [hfound]
  | missing hnone =>
      have hfound : anchors.findSome? (commentTable comments).get? = none := by
        refine List.findSome?_eq_none_iff.mpr ?_
        intro anchor hanchor
        exact get?_commentTable_eq_none_iff.mpr (hnone anchor hanchor)
      rw [hfound]

theorem commentAt_eq_iff {text description : String} {comments : List Comment}
    {anchors : List Nat} :
    commentAt text (commentTable comments) anchors = description ↔
      Described text comments anchors description := by
  constructor
  · rintro rfl
    exact commentAt_described text comments anchors
  · exact Described.commentAt_eq

/-- What documents one of some offsets is among what concerns them all. -/
theorem filter_concerns {anchor : Nat} {anchors : List Nat}
    (hanchor : anchor ∈ anchors) (comments : List Comment) :
    (comments.filter (·.concerns anchors)).filter (·.documentsAt anchor) =
      comments.filter (·.documentsAt anchor) := by
  rw [List.filter_filter]
  apply List.filter_congr
  intro comment _
  cases hcomment : comment.documentsAt anchor with
  | false => rfl
  | true => simpa [Comment.concerns] using ⟨anchor, hanchor, hcomment⟩

/-- Only comments that document one of the offsets matter. -/
theorem commentAt_of_concerns {comments others : List Comment}
    {anchors : List Nat}
    (hsame : others.filter (·.concerns anchors) =
      comments.filter (·.concerns anchors))
    (text : String) :
    commentAt text (commentTable others) anchors =
      commentAt text (commentTable comments) anchors := by
  have hfound : anchors.findSome? (commentTable others).get? =
      anchors.findSome? (commentTable comments).get? := by
    rw [← List.head?_filterMap, ← List.head?_filterMap]
    congr 1
    apply List.filterMap_congr
    intro anchor hanchor
    rw [get?_commentTable, get?_commentTable, ← filter_concerns hanchor others,
      hsame, filter_concerns hanchor comments]
  rw [commentAt, commentAt, hfound]

/--
The last comment of the first documented offset describes a node, whatever it
says, and where no offset has a comment the node is described by nothing.
Comments that document nothing, or something at other offsets, make no
difference. The comments of a source file are those that its text is read with.
-/
theorem last_comment_of_first_documented_offset (text : String)
    (statements : List Stmt) (comments : List Comment) (anchors : List Nat) :
    (∀ description,
      (File.mk text statements (commentTable comments)).comment anchors =
          description ↔
        Described text comments anchors description) ∧
    (∀ others,
      others.filter (·.concerns anchors) = comments.filter (·.concerns anchors) →
      (File.mk text statements (commentTable others)).comment anchors =
        (File.mk text statements (commentTable comments)).comment anchors) ∧
    ∀ path file, File.parse? path text = some file →
      ∃ given, Source.parse? (Language.ofPath path) text =
          some (file.statements, given) ∧
        ∀ offsets description, file.comment offsets = description ↔
          Described text given offsets description := by
  refine ⟨?_, ?_, ?_⟩
  · intro description
    exact commentAt_eq_iff
  · intro others hsame
    exact commentAt_of_concerns hsame text
  · intro path file hparse
    obtain ⟨⟨read, given⟩, hread, hfile⟩ := Option.bind_eq_some_iff.mp hparse
    obtain rfl := Option.some.inj hfile
    refine ⟨given, hread, ?_⟩
    intro offsets description
    exact commentAt_eq_iff

/-- An exported class whose outer comment ends up empty, but not the inner one. -/
def silentExport : String :=
  "/** a */ /** */ /* b */ export /** in */ class A \x7b\x7d"

theorem comment_of_silentExport :
    (∃ file given, File.parse? "A.ts" silentExport = some file ∧
      Source.parse? (Language.ofPath "A.ts") silentExport =
        some (file.statements, given) ∧
      Described silentExport given [24, 41] "" ∧
      Described silentExport given [41, 24] "in") ∧
    (File.mk silentExport [] (commentTable
        [⟨24, ⟨2, 6⟩, true⟩, ⟨41, ⟨33, 38⟩, true⟩, ⟨41, ⟨18, 21⟩, false⟩])).comment
          [41] =
      (File.mk silentExport [] (commentTable [⟨41, ⟨33, 38⟩, true⟩])).comment
        [41] := by
  have hparsed : (File.parse? "A.ts" silentExport).map (fun file =>
      (file.comment [24, 41], file.comment [41, 24])) = some ("", "in") := by
    decide +kernel
  obtain ⟨file, hparse, hcomments⟩ := Option.map_eq_some_iff.mp hparsed
  obtain ⟨hsilent, hinner⟩ := Prod.mk.inj hcomments
  obtain ⟨-, hothers, hread⟩ := last_comment_of_first_documented_offset
    silentExport [] [⟨41, ⟨33, 38⟩, true⟩] [41]
  obtain ⟨given, hgiven, hiff⟩ := hread "A.ts" file hparse
  exact ⟨⟨file, given, hparse, hgiven, (hiff _ _).mp hsilent,
    (hiff _ _).mp hinner⟩, hothers _ (by decide)⟩

end ComponentDocs.Source
