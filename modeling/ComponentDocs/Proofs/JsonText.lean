import ComponentDocs.Json.Printer
import ComponentDocs.Json.Reader
import ComponentDocs.Proofs.TextCutting
import Mathlib.Tactic.SplitIfs

/-!
The reader undoes the printer.

A text spells a list of tokens if it is made of them and of space between them.
Both layouts of a value spell its tokens, and the reader gets the value back from
every text that does. Numbers are left out: no document has any.
-/

namespace ComponentDocs.Json

/-! ### Strings -/

theorem hexValue?_hexDigit : ∀ n < 16, hexValue? (hexDigit n) = some n := by
  decide

/-- The four digits of a control character stand for it. -/
theorem readUnicode_control {c : Char} (hc : c.toNat < 32) (rest : List Char) :
    readUnicode ('0' :: '0' :: hexDigit (c.toNat / 16) ::
      hexDigit (c.toNat % 16) :: rest) = some (c, rest) := by
  have hzero : hexValue? '0' = some 0 := by decide
  have hhigh := hexValue?_hexDigit (c.toNat / 16) (by omega)
  have hlow := hexValue?_hexDigit (c.toNat % 16) (by omega)
  have hvalue : ((0 * 16 + 0) * 16 + c.toNat / 16) * 16 + c.toNat % 16 =
      c.toNat := by
    omega
  have hread : readHex4 ('0' :: '0' :: hexDigit (c.toNat / 16) ::
      hexDigit (c.toNat % 16) :: rest) = some (c.toNat, rest) := by
    simp only [readHex4, hzero, hhigh, hlow]
    exact congrArg (fun n => some (n, rest)) hvalue
  have hfirst : ¬(0xD800 ≤ c.toNat ∧ c.toNat < 0xDC00) := by omega
  have hsecond : ¬(0xDC00 ≤ c.toNat ∧ c.toNat < 0xE000) := by omega
  simp [readUnicode, hread, hfirst, hsecond, Char.ofNat_toNat]

theorem readStringChars_simple {e c : Char} (hescape : simpleEscape? e = some c)
    (n : Nat) (rest : List Char) :
    readStringChars (n + 1) ('\\' :: e :: rest) =
      (readStringChars n rest).map fun (cs, rest) => (c :: cs, rest) := by
  have hunicode : e ≠ 'u' := by
    rintro rfl
    simp [simpleEscape?] at hescape
  rw [readStringChars]
  · rw [hescape]
    cases readStringChars n rest <;> rfl
  · exact hunicode

theorem readStringChars_plain {c : Char} (hquote : c ≠ '"') (hslash : c ≠ '\\')
    (hcontrol : ¬c.toNat < 32) (n : Nat) (rest : List Char) :
    readStringChars (n + 1) (c :: rest) =
      (readStringChars n rest).map fun (cs, rest) => (c :: cs, rest) := by
  rw [readStringChars]
  · simp only [hcontrol, hslash]
    cases readStringChars n rest <;> rfl
  all_goals simp_all

/-- An escaped character is read as that character. -/
theorem readStringChars_escapeChar (n : Nat) (c : Char) (rest : List Char) :
    readStringChars (n + 1) (escapeChar c ++ rest) =
      (readStringChars n rest).map fun (cs, rest) => (c :: cs, rest) := by
  have hsimple : ∀ {code e}, c.toNat = code →
      simpleEscape? e = some (Char.ofNat code) →
      readStringChars (n + 1) (['\\', e] ++ rest) =
        (readStringChars n rest).map fun (cs, rest) => (c :: cs, rest) := by
    rintro code e rfl hescape
    rw [Char.ofNat_toNat] at hescape
    exact readStringChars_simple hescape n rest
  unfold escapeChar
  split_ifs with hquote hslash hback htab hline hfeed hreturn hcontrol
  · subst hquote
    exact readStringChars_simple rfl n rest
  · subst hslash
    exact readStringChars_simple rfl n rest
  · exact hsimple hback rfl
  · exact hsimple htab rfl
  · exact hsimple hline rfl
  · exact hsimple hfeed rfl
  · exact hsimple hreturn rfl
  · simp only [List.cons_append, List.nil_append]
    rw [readStringChars]
    simp only [readUnicode_control hcontrol, Option.bind_eq_bind,
      Option.bind_some]
    cases readStringChars n rest <;> rfl
  · exact readStringChars_plain hquote hslash hcontrol n rest

theorem readStringChars_escaped (chars rest : List Char) {n : Nat}
    (hn : chars.length < n) :
    readStringChars n (chars.flatMap escapeChar ++ '"' :: rest) =
      some (chars, rest) := by
  induction chars generalizing n with
  | nil =>
      obtain ⟨n, rfl⟩ := Nat.exists_eq_succ_of_ne_zero (Nat.ne_zero_of_lt hn)
      rw [List.flatMap_nil, List.nil_append, readStringChars]
  | cons c chars ih =>
      obtain ⟨n, rfl⟩ := Nat.exists_eq_succ_of_ne_zero (Nat.ne_zero_of_lt hn)
      rw [List.length_cons] at hn
      rw [List.flatMap_cons, List.append_assoc, readStringChars_escapeChar,
        ih (by omega)]
      rfl

theorem length_le_length_escaped (chars : List Char) :
    chars.length ≤ (chars.flatMap escapeChar).length := by
  induction chars with
  | nil => exact Nat.le_refl 0
  | cons c chars ih =>
      have hone : 0 < (escapeChar c).length := by
        unfold escapeChar
        split_ifs <;> exact Nat.succ_pos _
      rw [List.length_cons, List.flatMap_cons, List.length_append]
      omega

/-- A string literal is read as its string. -/
theorem readString_escaped (s : String) (rest : List Char) :
    readString (s.toList.flatMap escapeChar ++ '"' :: rest) = some (s, rest) := by
  have hlength : s.toList.length <
      (s.toList.flatMap escapeChar ++ '"' :: rest).length + 1 := by
    have hescaped := length_le_length_escaped s.toList
    rw [List.length_append]
    omega
  rw [readString, readStringChars_escaped s.toList rest hlength]
  simp only [Option.map_some, String.ofList_toList]

/-! ### Tokens and the texts that spell them -/

mutual

/-- The tokens of a value. -/
def tokens : Json → List (List Char)
  | .array items => ['['] :: itemTokens items ++ [[']']]
  | .object fields => ['{'] :: fieldTokens fields ++ [['}']]
  | value => [scalarChars value]

/-- The tokens of array items, with commas between them. -/
def itemTokens : List Json → List (List Char)
  | [] => []
  | [item] => tokens item
  | item :: items => tokens item ++ [','] :: itemTokens items

/-- The tokens of object fields, with commas between them. -/
def fieldTokens : List (String × Json) → List (List Char)
  | [] => []
  | [(name, value)] => stringChars name :: [':'] :: tokens value
  | (name, value) :: fields =>
      stringChars name :: [':'] :: tokens value ++ [','] :: fieldTokens fields

end

theorem itemTokens_cons_cons (item next : Json) (items : List Json) :
    itemTokens (item :: next :: items) =
      tokens item ++ [','] :: itemTokens (next :: items) :=
  rfl

theorem fieldTokens_cons_cons (name : String) (value : Json)
    (next : String × Json) (fields : List (String × Json)) :
    fieldTokens ((name, value) :: next :: fields) =
      stringChars name :: [':'] :: (tokens value ++
        [','] :: fieldTokens (next :: fields)) :=
  rfl

/-- A text made of tokens and of space between them. -/
inductive Spells : List (List Char) → List Char → Prop where
  | nil : Spells [] []
  | space {c : Char} {words : List (List Char)} {text : List Char}
      (hspace : isSpace c = true) (htext : Spells words text) :
      Spells words (c :: text)
  | word {c : Char} {word : List Char} {words : List (List Char)}
      {text : List Char} (hword : isSpace c = false) (htext : Spells words text) :
      Spells ((c :: word) :: words) (c :: word ++ text)

namespace Spells

variable {words : List (List Char)} {text : List Char}

theorem blank {blank : List Char} (hblank : ∀ c ∈ blank, isSpace c = true)
    (htext : Spells words text) : Spells words (blank ++ text) := by
  induction blank with
  | nil => exact htext
  | cons c blank ih =>
      rw [List.forall_mem_cons] at hblank
      exact space hblank.1 (ih hblank.2)

/-- Leading space can be skipped. -/
theorem skipped (htext : Spells words text) : Spells words (skipSpace text) := by
  induction htext with
  | nil => exact nil
  | space hspace _ ih => simpa [skipSpace, hspace] using ih
  | word hword htext _ => simpa [skipSpace, hword] using word hword htext

/-- What stands after space is the first token. -/
theorem skipSpace_eq {word : List Char} (htext : Spells (word :: words) text) :
    ∃ rest, Spells words rest ∧ skipSpace text = word ++ rest := by
  generalize hall : word :: words = all at htext
  induction htext with
  | nil => cases hall
  | space hspace _ ih =>
      obtain ⟨rest, hrest, hskip⟩ := ih hall
      exact ⟨rest, hrest, by simpa [skipSpace, hspace] using hskip⟩
  | @word c tail _ text hword htext _ =>
      cases hall
      exact ⟨text, htext, by simp [skipSpace, hword]⟩

theorem skipSpace_eq_nil (htext : Spells [] text) : skipSpace text = [] := by
  generalize hnone : ([] : List (List Char)) = none at htext
  induction htext with
  | nil => rfl
  | space hspace _ ih => simpa [skipSpace, hspace] using ih hnone
  | word hword htext _ => cases hnone

theorem skipSpace_ne {c close : Char} {word : List Char}
    (htext : Spells ((c :: word) :: words) text) (hc : c ≠ close)
    (tail : List Char) : skipSpace text ≠ close :: tail := by
  intro hclose
  obtain ⟨rest, _, hskip⟩ := htext.skipSpace_eq
  rw [hclose] at hskip
  exact hc (List.head_eq_of_cons_eq hskip).symm

theorem length_le (htext : Spells words text) : words.length ≤ text.length := by
  induction htext with
  | nil => exact Nat.le_refl 0
  | space _ _ ih => exact Nat.le_succ_of_le ih
  | word _ _ ih =>
      rw [List.length_cons, List.length_append, List.length_cons]
      omega

end Spells

/-! ### Values without numbers -/

/-- A value without numbers that nests at most `room` deep. -/
inductive Plain : Nat → Json → Prop where
  | null {room : Nat} : Plain room .null
  | bool {room : Nat} (value : Bool) : Plain room (.bool value)
  | string {room : Nat} (value : String) : Plain room (.string value)
  | array {room : Nat} {items : List Json}
      (hitems : ∀ item ∈ items, Plain room item) : Plain (room + 1) (.array items)
  | object {room : Nat} {fields : List (String × Json)}
      (hfields : ∀ field ∈ fields, Plain room field.2) :
      Plain (room + 1) (.object fields)

attribute [simp] Plain.null Plain.bool Plain.string

@[simp] theorem plain_array_iff {room : Nat} {items : List Json} :
    Plain (room + 1) (.array items) ↔ ∀ item ∈ items, Plain room item := by
  constructor
  · intro harray
    cases harray with
    | array hitems => exact hitems
  · exact .array

@[simp] theorem plain_object_iff {room : Nat} {fields : List (String × Json)} :
    Plain (room + 1) (.object fields) ↔ ∀ field ∈ fields, Plain room field.2 := by
  constructor
  · intro hobject
    cases hobject with
    | object hfields => exact hfields
  · exact .object

/-! ### Reading -/

/-- The value is read from every text that starts by spelling its tokens. -/
def ReadsBack (room : Nat) (value : Json) : Prop :=
  -- A token costs two steps at most: one for the list it stands in, one for itself.
  ∀ (fuel : Nat) (words : List (List Char)) (text : List Char),
    2 * (tokens value).length ≤ fuel → Spells (tokens value ++ words) text →
      ∃ rest, Spells words rest ∧ readValue fuel room text = some (value, rest)

theorem readItems_of_spells {room : Nat} {items : List Json}
    (hitems : ∀ item ∈ items, ReadsBack room item) (hsome : items ≠ [])
    {fuel : Nat} {words : List (List Char)} {text : List Char}
    (hfuel : 2 * (itemTokens items).length + 1 ≤ fuel)
    (htext : Spells (itemTokens items ++ [']'] :: words) text) :
    ∃ rest, Spells words rest ∧ readItems fuel room text = some (items, rest) := by
  induction items generalizing fuel text with
  | nil => exact absurd rfl hsome
  | cons item items ih =>
      rw [List.forall_mem_cons] at hitems
      obtain ⟨hitem, hitems⟩ := hitems
      obtain ⟨fuel, rfl⟩ : ∃ n, fuel = n + 1 := ⟨fuel - 1, by omega⟩
      cases items with
      | nil =>
          rw [itemTokens] at hfuel htext
          obtain ⟨text, htext, hread⟩ := hitem fuel _ text (by omega) htext
          obtain ⟨rest, hrest, hskip⟩ := htext.skipSpace_eq
          exact ⟨rest, hrest, by simp [readItems, hread, hskip]⟩
      | cons next items =>
          rw [itemTokens_cons_cons, List.length_append, List.length_cons] at hfuel
          rw [itemTokens_cons_cons, List.append_assoc] at htext
          obtain ⟨text, htext, hread⟩ := hitem fuel _ text (by omega) htext
          obtain ⟨text, htext, hskip⟩ := htext.skipSpace_eq
          have hmore : 2 * (itemTokens (next :: items)).length + 1 ≤ fuel := by
            omega
          obtain ⟨rest, hrest, hmore⟩ :=
            ih hitems (List.cons_ne_nil next items) hmore htext
          exact ⟨rest, hrest, by simp [readItems, hread, hskip, hmore]⟩

theorem readFields_of_spells {room : Nat} {fields : List (String × Json)}
    (hfields : ∀ field ∈ fields, ReadsBack room field.2) (hsome : fields ≠ [])
    {fuel : Nat} {words : List (List Char)} {text : List Char}
    (hfuel : 2 * (fieldTokens fields).length + 1 ≤ fuel)
    (htext : Spells (fieldTokens fields ++ ['}'] :: words) text) :
    ∃ rest, Spells words rest ∧
      readFields fuel room text = some (fields, rest) := by
  induction fields generalizing fuel text with
  | nil => exact absurd rfl hsome
  | cons field fields ih =>
      obtain ⟨name, value⟩ := field
      rw [List.forall_mem_cons] at hfields
      have hvalue : ReadsBack room value := hfields.1
      obtain ⟨fuel, rfl⟩ : ∃ n, fuel = n + 1 := ⟨fuel - 1, by omega⟩
      cases fields with
      | nil =>
          rw [fieldTokens, List.length_cons, List.length_cons] at hfuel
          rw [fieldTokens] at htext
          obtain ⟨text, htext, hname⟩ := htext.skipSpace_eq
          obtain ⟨text, htext, hcolon⟩ := htext.skipSpace_eq
          obtain ⟨text, htext, hread⟩ := hvalue fuel _ text (by omega) htext
          obtain ⟨rest, hrest, hclose⟩ := htext.skipSpace_eq
          refine ⟨rest, hrest, ?_⟩
          simp [readFields, hname, stringChars, readString_escaped, hcolon,
            hread, hclose]
      | cons next fields =>
          rw [fieldTokens_cons_cons, List.length_cons, List.length_cons,
            List.length_append, List.length_cons] at hfuel
          simp only [fieldTokens_cons_cons, List.cons_append,
            List.append_assoc] at htext
          obtain ⟨text, htext, hname⟩ := htext.skipSpace_eq
          obtain ⟨text, htext, hcolon⟩ := htext.skipSpace_eq
          obtain ⟨text, htext, hread⟩ := hvalue fuel _ text (by omega) htext
          obtain ⟨text, htext, hcomma⟩ := htext.skipSpace_eq
          have hmore : 2 * (fieldTokens (next :: fields)).length + 1 ≤ fuel := by
            omega
          obtain ⟨rest, hrest, hmore⟩ :=
            ih hfields.2 (List.cons_ne_nil next fields) hmore htext
          refine ⟨rest, hrest, ?_⟩
          simp [readFields, hname, stringChars, readString_escaped, hcolon,
            hread, hcomma, hmore]

/-- Array items do not start with a closing bracket. -/
theorem itemTokens_first {room : Nat} {item : Json} (hitem : Plain room item)
    (items : List Json) :
    ∃ c word words, itemTokens (item :: items) = (c :: word) :: words ∧
      c ≠ ']' := by
  have hfirst : ∃ c word words, tokens item = (c :: word) :: words ∧ c ≠ ']' := by
    cases hitem with
    | null => exact ⟨_, _, _, rfl, by decide⟩
    | bool value => cases value <;> exact ⟨_, _, _, rfl, by decide⟩
    | string value => exact ⟨_, _, _, rfl, by decide⟩
    | array hitems => exact ⟨_, _, _, rfl, by decide⟩
    | object hfields => exact ⟨_, _, _, rfl, by decide⟩
  obtain ⟨c, word, words, htokens, hc⟩ := hfirst
  cases items with
  | nil => exact ⟨c, word, words, by rw [itemTokens, htokens], hc⟩
  | cons next items =>
      refine ⟨c, word, words ++ [','] :: itemTokens (next :: items), ?_, hc⟩
      rw [itemTokens_cons_cons, htokens, List.cons_append]

/-- Object fields start with the quote of a name. -/
theorem fieldTokens_first (field : String × Json) (fields : List (String × Json)) :
    ∃ word words, fieldTokens (field :: fields) = ('"' :: word) :: words := by
  obtain ⟨name, value⟩ := field
  cases fields with
  | nil => exact ⟨_, _, rfl⟩
  | cons next fields => exact ⟨_, _, fieldTokens_cons_cons name value next fields⟩

theorem readValue_array {text rest : List Char}
    (hopen : skipSpace text = '[' :: rest) (fuel room : Nat) :
    readValue (fuel + 1) (room + 1) text =
      match skipSpace rest with
      | ']' :: rest => some (.array [], rest)
      | rest => (readItems fuel room rest).map
          fun (items, rest) => (.array items, rest) := by
  rw [readValue, hopen]
  rfl

theorem readValue_object {text rest : List Char}
    (hopen : skipSpace text = '{' :: rest) (fuel room : Nat) :
    readValue (fuel + 1) (room + 1) text =
      match skipSpace rest with
      | '}' :: rest => some (.object [], rest)
      | rest => (readFields fuel room rest).map
          fun (fields, rest) => (.object fields, rest) := by
  rw [readValue, hopen]
  rfl

theorem readsBack_array {room : Nat} {items : List Json}
    (hplain : ∀ item ∈ items, Plain room item)
    (hread : ∀ item ∈ items, ReadsBack room item) :
    ReadsBack (room + 1) (.array items) := by
  intro fuel words text hfuel htext
  simp only [tokens, List.length_append, List.length_cons, List.length_nil]
    at hfuel
  simp only [tokens, List.cons_append, List.append_assoc] at htext
  obtain ⟨fuel, rfl⟩ : ∃ n, fuel = n + 1 := ⟨fuel - 1, by omega⟩
  obtain ⟨text, htext, hopen⟩ := htext.skipSpace_eq
  rw [List.singleton_append] at hopen
  cases items with
  | nil =>
      obtain ⟨rest, hrest, hclose⟩ := htext.skipSpace_eq
      exact ⟨rest, hrest, by rw [readValue_array hopen, hclose]; rfl⟩
  | cons item items =>
      obtain ⟨c, word, tail, hfirst, hc⟩ :=
        itemTokens_first (hplain item List.mem_cons_self) items
      have hinside : ∀ tail, skipSpace text ≠ ']' :: tail :=
        Spells.skipSpace_ne (hfirst ▸ htext) hc
      have hroom : 2 * (itemTokens (item :: items)).length + 1 ≤ fuel := by omega
      obtain ⟨rest, hrest, hitems⟩ := readItems_of_spells hread
        (List.cons_ne_nil item items) hroom htext.skipped
      refine ⟨rest, hrest, ?_⟩
      rw [readValue_array hopen]
      simp only [hitems, Option.map_some]

theorem readsBack_object {room : Nat} {fields : List (String × Json)}
    (hread : ∀ field ∈ fields, ReadsBack room field.2) :
    ReadsBack (room + 1) (.object fields) := by
  intro fuel words text hfuel htext
  simp only [tokens, List.length_append, List.length_cons, List.length_nil]
    at hfuel
  simp only [tokens, List.cons_append, List.append_assoc] at htext
  obtain ⟨fuel, rfl⟩ : ∃ n, fuel = n + 1 := ⟨fuel - 1, by omega⟩
  obtain ⟨text, htext, hopen⟩ := htext.skipSpace_eq
  rw [List.singleton_append] at hopen
  cases fields with
  | nil =>
      obtain ⟨rest, hrest, hclose⟩ := htext.skipSpace_eq
      exact ⟨rest, hrest, by rw [readValue_object hopen, hclose]; rfl⟩
  | cons field fields =>
      obtain ⟨word, tail, hfirst⟩ := fieldTokens_first field fields
      have hinside : ∀ tail, skipSpace text ≠ '}' :: tail :=
        Spells.skipSpace_ne (hfirst ▸ htext) (by decide)
      have hroom : 2 * (fieldTokens (field :: fields)).length + 1 ≤ fuel := by
        omega
      obtain ⟨rest, hrest, hfields⟩ := readFields_of_spells hread
        (List.cons_ne_nil field fields) hroom htext.skipped
      refine ⟨rest, hrest, ?_⟩
      rw [readValue_object hopen]
      simp only [hfields, Option.map_some]

/-- A value without numbers is read back. -/
theorem Plain.readsBack {room : Nat} {value : Json} (hvalue : Plain room value) :
    ReadsBack room value := by
  have hsingle : ∀ {room : Nat} {value : Json},
      tokens value = [scalarChars value] →
      (∀ fuel rest text, skipSpace text = scalarChars value ++ rest →
        readValue (fuel + 1) room text = some (value, rest)) →
      ReadsBack room value := by
    intro room value htokens hread fuel words text hfuel htext
    rw [htokens] at hfuel htext
    obtain ⟨rest, hrest, hskip⟩ := htext.skipSpace_eq
    rw [List.length_singleton] at hfuel
    obtain ⟨fuel, rfl⟩ : ∃ n, fuel = n + 1 := ⟨fuel - 1, by omega⟩
    exact ⟨rest, hrest, hread fuel rest text hskip⟩
  induction hvalue with
  | null =>
      apply hsingle rfl
      intro fuel rest text hskip
      rw [readValue, hskip]
      rfl
  | bool value =>
      apply hsingle rfl
      intro fuel rest text hskip
      rw [readValue, hskip]
      cases value <;> rfl
  | string value =>
      apply hsingle rfl
      intro fuel rest text hskip
      have hchars : scalarChars (.string value) ++ rest =
          '"' :: (value.toList.flatMap escapeChar ++ '"' :: rest) := by
        change stringChars value ++ rest = _
        simp [stringChars]
      rw [readValue, hskip, hchars]
      exact congrArg (Option.map _) (readString_escaped value rest)
  | array hplain ih => exact readsBack_array hplain ih
  | object _ ih => exact readsBack_object ih

/-- What spells the tokens of a value is read as that value. -/
theorem read?_of_spells {value : Json} (hvalue : Plain maxDepth value)
    {text : List Char} (htext : Spells (tokens value) text) :
    read? (String.ofList text) = some value := by
  have hfuel : 2 * (tokens value).length ≤ 2 * text.length + 2 := by
    have hlength := htext.length_le
    omega
  rw [← List.append_nil (tokens value)] at htext
  obtain ⟨rest, hrest, hread⟩ := hvalue.readsBack _ _ _ hfuel htext
  simp [read?, String.toList_ofList, hread, hrest.skipSpace_eq_nil]

/-! ### Printing -/

/-- Characters that spell tokens, whatever comes after them. -/
def Prints (words : List (List Char)) (chars : List Char) : Prop :=
  ∀ more text, Spells more text → Spells (words ++ more) (chars ++ text)

namespace Prints

theorem blank {blank : List Char} (hblank : ∀ c ∈ blank, isSpace c = true) :
    Prints [] blank :=
  fun _ _ htext => htext.blank hblank

theorem word {c : Char} (hc : isSpace c = false) (word : List Char) :
    Prints [c :: word] (c :: word) :=
  fun _ _ htext => .word hc htext

theorem append {words more : List (List Char)} {chars text : List Char}
    (hfirst : Prints words chars) (hsecond : Prints more text) :
    Prints (words ++ more) (chars ++ text) := by
  intro others rest hrest
  rw [List.append_assoc, List.append_assoc]
  exact hfirst _ _ (hsecond _ _ hrest)

theorem before_blank {words : List (List Char)} {chars blank : List Char}
    (hprints : Prints words chars) (hblank : ∀ c ∈ blank, isSpace c = true) :
    Prints words (chars ++ blank) := by
  simpa using hprints.append (.blank hblank)

theorem enclosed {first last : Char} (hfirst : isSpace first = false)
    (hlast : isSpace last = false) {words : List (List Char)} {chars : List Char}
    (hprints : Prints words chars) :
    Prints ([first] :: words ++ [[last]]) (first :: chars ++ [last]) :=
  ((word hfirst []).append hprints).append (word hlast [])

theorem string (s : String) : Prints [stringChars s] (stringChars s) :=
  word (by decide) _

theorem spells {words : List (List Char)} {chars : List Char}
    (hprints : Prints words chars) : Spells words chars := by
  simpa using hprints [] [] .nil

/-- Parts with commas between them are printed as their tokens are. -/
theorem intercalate {α : Type} {words : α → List (List Char)}
    {chars : α → List Char} {parts : List α}
    (hparts : ∀ part ∈ parts, Prints (words part) (chars part)) :
    Prints ([[',']].intercalate (parts.map words))
      ([','].intercalate (parts.map chars)) := by
  induction parts with
  | nil => exact blank (by simp)
  | cons part parts ih =>
      rw [List.forall_mem_cons] at hparts
      cases parts with
      | nil => simpa using hparts.1
      | cons next parts =>
          have hcomma : Prints [[',']] [','] := word (by decide) []
          simp only [List.map_cons, List.intercalate_cons_cons] at ih ⊢
          exact (hparts.1.append hcomma).append (ih hparts.2)

end Prints

theorem itemTokens_eq (items : List Json) :
    itemTokens items = [[',']].intercalate (items.map tokens) :=
  Text.eq_intercalate rfl (fun _ => rfl) (fun _ _ _ => rfl) items

theorem fieldTokens_eq (fields : List (String × Json)) :
    fieldTokens fields = [[',']].intercalate (fields.map fun field =>
      stringChars field.1 :: [':'] :: tokens field.2) :=
  Text.eq_intercalate rfl (fun _ => rfl) (fun _ _ _ => rfl) fields

theorem compactItems_eq (items : List Json) :
    compactItems items = [','].intercalate (items.map compactChars) :=
  Text.eq_intercalate rfl (fun _ => rfl) (fun _ _ _ => rfl) items

theorem compactFields_eq (fields : List (String × Json)) :
    compactFields fields = [','].intercalate (fields.map fun field =>
      stringChars field.1 ++ ':' :: compactChars field.2) :=
  Text.eq_intercalate rfl (fun _ => rfl) (fun _ _ _ => rfl) fields

theorem prettyItems_eq (level : Nat) (items : List Json) :
    prettyItems level items = [','].intercalate (items.map fun item =>
      newline level ++ prettyChars level item) :=
  Text.eq_intercalate rfl (fun _ => rfl) (fun _ _ _ => rfl) items

theorem prettyFields_eq (level : Nat) (fields : List (String × Json)) :
    prettyFields level fields = [','].intercalate (fields.map fun field =>
      newline level ++ stringChars field.1 ++ ':' :: ' ' ::
        prettyChars level field.2) :=
  Text.eq_intercalate rfl (fun _ => rfl) (fun _ _ _ => rfl) fields

theorem newline_isSpace (level : Nat) : ∀ c ∈ newline level, isSpace c = true := by
  intro c hc
  rcases List.mem_cons.mp hc with rfl | hc
  · rfl
  · rw [List.eq_of_mem_replicate hc]
    rfl

/-- The compact layout spells the tokens of a value. -/
theorem Plain.prints_compact {room : Nat} {value : Json} (hvalue : Plain room value) :
    Prints (tokens value) (compactChars value) := by
  induction hvalue with
  | null => exact .word (by decide) _
  | bool value => cases value <;> exact .word (by decide) _
  | string value => exact .string value
  | array _ ih =>
      rw [tokens, compactChars, itemTokens_eq, compactItems_eq]
      exact .enclosed (by decide) (by decide) (.intercalate ih)
  | object _ ih =>
      rw [tokens, compactChars, fieldTokens_eq, compactFields_eq]
      refine .enclosed (by decide) (by decide) (.intercalate ?_)
      intro field hfield
      have hcolon : Prints [[':']] [':'] := .word (by decide) []
      exact (Prints.string field.1).append (hcolon.append (ih field hfield))

/-- The indented layout spells the tokens of a value. -/
theorem Plain.prints_pretty {room : Nat} {value : Json} (hvalue : Plain room value)
    (level : Nat) : Prints (tokens value) (prettyChars level value) := by
  induction hvalue generalizing level with
  | null => exact .word (by decide) _
  | bool value => cases value <;> exact .word (by decide) _
  | string value => exact .string value
  | @array room items _ ih =>
      have hitems : Prints (itemTokens items) (prettyItems (level + 1) items) := by
        rw [itemTokens_eq, prettyItems_eq]
        refine .intercalate fun item hitem => ?_
        exact (Prints.blank (newline_isSpace _)).append (ih item hitem _)
      cases items with
      | nil => exact .enclosed (by decide) (by decide) hitems
      | cons item items =>
          exact .enclosed (by decide) (by decide)
            (hitems.before_blank (newline_isSpace level))
  | @object room fields _ ih =>
      have hfields : Prints (fieldTokens fields)
          (prettyFields (level + 1) fields) := by
        rw [fieldTokens_eq, prettyFields_eq]
        refine .intercalate fun field hfield => ?_
        have hname : Prints [stringChars field.1]
            (newline (level + 1) ++ stringChars field.1) :=
          (Prints.blank (newline_isSpace _)).append (.string field.1)
        have hcolon : Prints [[':']] [':', ' '] :=
          Prints.before_blank (.word (by decide) []) (by simp [isSpace])
        exact hname.append (hcolon.append (ih field hfield _))
      cases fields with
      | nil => exact .enclosed (by decide) (by decide) hfields
      | cons field fields =>
          exact .enclosed (by decide) (by decide)
            (hfields.before_blank (newline_isSpace level))

/-- What is printed is read back, in both layouts. -/
theorem read?_render {value : Json} (hvalue : Plain maxDepth value)
    (layout : Layout) : read? (render layout value) = some value := by
  cases layout with
  | compact => exact read?_of_spells hvalue hvalue.prints_compact.spells
  | pretty => exact read?_of_spells hvalue (hvalue.prints_pretty 0).spells

end ComponentDocs.Json
