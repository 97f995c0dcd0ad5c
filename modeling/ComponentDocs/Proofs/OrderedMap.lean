import ComponentDocs.OrderedMap
import Mathlib.Data.List.Induction
import Mathlib.Data.List.Nodup

/-!
What a map shows of the entries that were inserted into it.

A key keeps the place of its first insertion and the value of its last one:
`keys_ofList` and `get?_ofList` say so for every list of entries, and no key
occurs twice. The facts about single insertions come first; the others follow
by taking the last entry off the list.
-/

namespace ComponentDocs.OrderedMap

variable {κ α : Type} [DecidableEq κ]

/-! ### One insertion -/

theorem get?_insert (map : OrderedMap κ α) (key other : κ) (value : α) :
    (map.insert key value).get? other =
      if key = other then some value else map.get? other := by
  obtain ⟨entries⟩ := map
  induction entries with
  | nil => by_cases h : key = other <;> simp [insert, insertEntry, get?, h]
  | cons entry rest ih =>
      simp only [insert, insertEntry, get?] at ih ⊢
      by_cases hkey : entry.1 = key
      · by_cases hother : key = other <;> simp [hkey, hother]
      · rw [if_neg hkey]
        by_cases hother : entry.1 = other
        · have hne : key ≠ other := fun heq => hkey (hother.trans heq.symm)
          simp [hother, hne]
        · simpa [hother] using ih

theorem keys_insert (map : OrderedMap κ α) (key : κ) (value : α) :
    (map.insert key value).keys =
      if key ∈ map.keys then map.keys else map.keys ++ [key] := by
  obtain ⟨entries⟩ := map
  induction entries with
  | nil => simp [insert, insertEntry, keys]
  | cons entry rest ih =>
      simp only [insert, insertEntry, keys] at ih ⊢
      by_cases hkey : entry.1 = key
      · simp [hkey]
      · rw [if_neg hkey, List.map_cons, ih]
        by_cases hmem : key ∈ rest.map Prod.fst
        · simp only [hmem, ↓reduceIte, List.map_cons, List.mem_cons, or_true]
        · simp only [hmem, ↓reduceIte, List.map_cons, List.mem_cons,
            Ne.symm hkey, or_self, List.cons_append]

theorem keys_insert_nodup {map : OrderedMap κ α} (hkeys : map.keys.Nodup)
    (key : κ) (value : α) : (map.insert key value).keys.Nodup := by
  rw [keys_insert]
  split
  · exact hkeys
  · rename_i hfresh
    refine List.nodup_append.mpr ⟨hkeys, by simp, ?_⟩
    intro old hold new hnew heq
    rw [List.mem_singleton.mp hnew] at heq
    exact hfresh (heq ▸ hold)

theorem size_insert (map : OrderedMap κ α) (key : κ) (value : α) :
    (map.insert key value).size =
      if key ∈ map.keys then map.size else map.size + 1 := by
  have hsize : ∀ map : OrderedMap κ α, map.size = map.keys.length :=
    fun map => (List.length_map ..).symm
  rw [hsize, hsize, keys_insert]
  split <;> simp

/-- A key has a value exactly if it is listed. -/
theorem get?_isSome_iff (map : OrderedMap κ α) (key : κ) :
    (map.get? key).isSome ↔ key ∈ map.keys := by
  simp only [get?, keys, Option.isSome_map, List.find?_isSome,
    decide_eq_true_eq, List.mem_map]

/-- A map without repeated keys is what its keys and values say. -/
theorem eq_of_keys_of_get? {first second : OrderedMap κ α}
    (hnodup : first.keys.Nodup) (hkeys : first.keys = second.keys)
    (hvalues : ∀ key, first.get? key = second.get? key) : first = second := by
  obtain ⟨entries⟩ := first
  obtain ⟨others⟩ := second
  congr 1
  induction entries generalizing others with
  | nil => exact (List.map_eq_nil_iff.mp hkeys.symm).symm
  | cons entry rest ih =>
      obtain ⟨other, others, rfl, hkey, htail⟩ := List.map_eq_cons_iff.mp hkeys.symm
      obtain ⟨hfresh, hrest⟩ := List.nodup_cons.mp hnodup
      have hvalue : entry.2 = other.2 := by
        simpa [get?, hkey] using hvalues entry.1
      rw [Prod.ext hkey.symm hvalue, ih hrest others htail.symm ?_]
      intro key
      by_cases hsame : entry.1 = key
      · subst hsame
        have hnone : ∀ entries : List (κ × α),
            entry.1 ∉ entries.map Prod.fst →
              (⟨entries⟩ : OrderedMap κ α).get? entry.1 = none := by
          intro entries hnot
          rw [← Option.not_isSome_iff_eq_none, get?_isSome_iff]
          exact hnot
        rw [hnone rest hfresh, hnone others (htail ▸ hfresh)]
      · simpa [get?, hkey, hsame] using hvalues key

/-! ### Many insertions -/

theorem insertAll_append (map : OrderedMap κ α) (first second : List (κ × α)) :
    map.insertAll (first ++ second) =
      (map.insertAll first).insertAll second := by
  simp [insertAll]

theorem ofList_concat (entries : List (κ × α)) (entry : κ × α) :
    ofList (entries ++ [entry]) = (ofList entries).insert entry.1 entry.2 := by
  simp [ofList, insertAll]

/-- The last entry of a key gives its value. -/
theorem get?_ofList (entries : List (κ × α)) (key : κ) :
    (ofList entries).get? key =
      (entries.reverse.find? (fun entry => entry.1 = key)).map Prod.snd := by
  induction entries using List.reverseRecOn with
  | nil => rfl
  | append_singleton entries entry ih =>
      rw [ofList_concat, get?_insert, ih]
      by_cases hkey : entry.1 = key <;> simp [hkey]

theorem get?_ofList_eq_getLast? (entries : List (κ × α)) (key : κ) :
    (ofList entries).get? key =
      ((entries.filter fun entry => entry.1 = key).map Prod.snd).getLast? := by
  rw [get?_ofList, List.getLast?_map, List.getLast?_eq_head?_reverse,
    ← List.head?_filter, List.filter_reverse]

/-- The keys stand in the order of their first entries. -/
theorem keys_ofList (entries : List (κ × α)) :
    (ofList entries).keys = (entries.map Prod.fst).eraseDups := by
  induction entries using List.reverseRecOn with
  | nil => rfl
  | append_singleton entries entry ih =>
      rw [ofList_concat, keys_insert, ih, List.map_append, List.eraseDups_append]
      by_cases hkey : entry.1 ∈ entries.map Prod.fst
      · simp [hkey, List.removeAll]
      · simp [hkey, List.removeAll, List.eraseDups_cons]

theorem keys_ofList_nodup (entries : List (κ × α)) :
    (ofList entries).keys.Nodup := by
  induction entries using List.reverseRecOn with
  | nil => exact List.nodup_nil
  | append_singleton entries entry ih =>
      rw [ofList_concat]
      exact keys_insert_nodup ih entry.1 entry.2

theorem size_ofList_le_length (entries : List (κ × α)) :
    (ofList entries).size ≤ entries.length := by
  induction entries using List.reverseRecOn with
  | nil => exact Nat.le_refl 0
  | append_singleton entries entry ih =>
      rw [ofList_concat, size_insert, List.length_append, List.length_singleton]
      split <;> omega

/-- A map has as many entries as came in exactly if no key came in twice. -/
theorem size_ofList_eq_length_iff (entries : List (κ × α)) :
    (ofList entries).size = entries.length ↔ (entries.map Prod.fst).Nodup := by
  induction entries using List.reverseRecOn with
  | nil => simp [ofList, insertAll, empty, size]
  | append_singleton entries entry ih =>
      have hknown : entry.1 ∈ (ofList entries).keys ↔
          entry.1 ∈ entries.map Prod.fst := by
        rw [keys_ofList, List.mem_eraseDups]
      have hle := size_ofList_le_length entries
      rw [ofList_concat, size_insert, List.length_append, List.length_singleton,
        List.map_append, List.map_singleton, ← List.concat_eq_append,
        List.nodup_concat]
      by_cases hkey : entry.1 ∈ (ofList entries).keys
      · have hlost : (ofList entries).size ≠ entries.length + 1 := by omega
        rw [if_pos hkey]
        exact iff_of_false hlost fun hfresh => hfresh.1 (hknown.mp hkey)
      · have hfresh : entry.1 ∉ entries.map Prod.fst := fun hmem => hkey (hknown.mpr hmem)
        rw [if_neg hkey, Nat.add_right_cancel_iff, ih, and_iff_right hfresh]

/-- What is stored has come in as an entry. -/
theorem mem_of_mem_ofList {entries : List (κ × α)} {entry : κ × α}
    (hmem : entry ∈ (ofList entries).entries) : entry ∈ entries := by
  have hinsert : ∀ (key : κ) (value : α) (present : List (κ × α)),
      entry ∈ insertEntry key value present →
        entry ∈ present ∨ entry = (key, value) := by
    intro key value present hentry
    induction present with
    | nil => exact .inr (List.mem_singleton.mp hentry)
    | cons first rest ih =>
        rw [insertEntry] at hentry
        split at hentry <;> simp only [List.mem_cons] at hentry ⊢ <;> tauto
  induction entries using List.reverseRecOn with
  | nil => exact hmem
  | append_singleton entries last ih =>
      rw [ofList_concat] at hmem
      rw [List.mem_append, List.mem_singleton]
      exact (hinsert last.1 last.2 _ hmem).imp_left ih

/-- Changing each value changes the values that are stored. -/
theorem get?_ofList_map {β : Type} (change : α → β) (entries : List (κ × α))
    (key : κ) :
    (ofList (entries.map fun entry => (entry.1, change entry.2))).get? key =
      ((ofList entries).get? key).map change := by
  rw [get?_ofList, get?_ofList, ← List.map_reverse, List.find?_map,
    Option.map_map, Option.map_map]
  rfl

theorem size_ofList_map {β : Type} (change : α → β) (entries : List (κ × α)) :
    (ofList (entries.map fun entry => (entry.1, change entry.2))).size =
      (ofList entries).size := by
  have hkeys : (ofList (entries.map fun entry =>
      (entry.1, change entry.2))).keys = (ofList entries).keys := by
    rw [keys_ofList, keys_ofList, List.map_map]
    rfl
  simpa [keys, size] using congrArg List.length hkeys

/-- Changing each value leaves the keys in their places. -/
theorem entries_ofList_map {β : Type} (change : α → β)
    (entries : List (κ × α)) :
    (ofList (entries.map fun entry => (entry.1, change entry.2))).entries =
      (ofList entries).entries.map fun entry => (entry.1, change entry.2) := by
  have hinsert : ∀ (key : κ) (value : α) (present : List (κ × α)),
      insertEntry key (change value)
          (present.map fun entry => (entry.1, change entry.2)) =
        (insertEntry key value present).map
          fun entry => (entry.1, change entry.2) := by
    intro key value present
    induction present with
    | nil => rfl
    | cons entry rest ih =>
        by_cases hkey : entry.1 = key
        · simp [insertEntry, hkey]
        · simp [insertEntry, hkey, ih]
  induction entries using List.reverseRecOn with
  | nil => rfl
  | append_singleton entries entry ih =>
      rw [List.map_append, List.map_singleton, ofList_concat, ofList_concat,
        insert, insert, ih]
      exact hinsert entry.1 entry.2 _

/-- Entries under other keys do not change a value. -/
theorem get?_insertAll_of_not_mem (map : OrderedMap κ α)
    (entries : List (κ × α)) (key : κ)
    (hkey : key ∉ entries.map Prod.fst) :
    (map.insertAll entries).get? key = map.get? key := by
  induction entries using List.reverseRecOn with
  | nil => rfl
  | append_singleton entries entry ih =>
      rw [List.map_append, List.mem_append, not_or] at hkey
      have hne : entry.1 ≠ key := by
        intro heq
        exact hkey.2 (by simp [heq])
      rw [insertAll_append]
      change ((map.insertAll entries).insert entry.1 entry.2).get? key = _
      rw [get?_insert, if_neg hne, ih hkey.1]

/-! ### One map inserted into another -/

/-- What is inserted counts before what was there. -/
theorem get?_insertAll (map : OrderedMap κ α) (entries : List (κ × α))
    (key : κ) :
    (map.insertAll entries).get? key =
      ((ofList entries).get? key).or (map.get? key) := by
  induction entries using List.reverseRecOn with
  | nil => rfl
  | append_singleton entries entry ih =>
      rw [insertAll_append, ofList_concat, get?_insert]
      change ((map.insertAll entries).insert entry.1 entry.2).get? key = _
      rw [get?_insert, ih]
      split
      · rw [Option.some_or]
      · rfl

/-- Keys that were there keep their places, and new ones follow. -/
theorem keys_insertAll (map : OrderedMap κ α) (entries : List (κ × α)) :
    (map.insertAll entries).keys =
      map.keys ++ (ofList entries).keys.filter (fun key => key ∉ map.keys) := by
  induction entries using List.reverseRecOn with
  | nil => simp [insertAll, ofList, empty, keys]
  | append_singleton entries entry ih =>
      rw [insertAll_append, ofList_concat, keys_insert]
      change ((map.insertAll entries).insert entry.1 entry.2).keys = _
      rw [keys_insert, ih]
      by_cases hold : entry.1 ∈ map.keys
      · rw [if_pos (List.mem_append_left _ hold)]
        split
        · rfl
        · rw [List.filter_append]
          simp [hold]
      · by_cases hnew : entry.1 ∈ (ofList entries).keys
        · rw [if_pos hnew, if_pos]
          refine List.mem_append_right _ (List.mem_filter.mpr ⟨hnew, ?_⟩)
          simpa using hold
        · have hfresh : entry.1 ∉ map.keys ++ (ofList entries).keys.filter
              (fun key => key ∉ map.keys) := by
            rw [List.mem_append, not_or]
            exact ⟨hold, fun hmem => hnew (List.mem_filter.mp hmem).1⟩
          rw [if_neg hnew, if_neg hfresh, List.filter_append, List.append_assoc]
          simp [hold]

theorem keys_insertAll_nodup {map : OrderedMap κ α} (hkeys : map.keys.Nodup)
    (entries : List (κ × α)) : (map.insertAll entries).keys.Nodup := by
  rw [keys_insertAll]
  refine List.nodup_append.mpr
    ⟨hkeys, (keys_ofList_nodup entries).filter _, ?_⟩
  rintro old hold new hnew rfl
  simpa [hold] using (List.mem_filter.mp hnew).2

theorem insertEntry_of_not_mem {entries : List (κ × α)} {key : κ} (value : α)
    (hkey : key ∉ entries.map Prod.fst) :
    insertEntry key value entries = entries ++ [(key, value)] := by
  induction entries with
  | nil => rfl
  | cons entry rest ih =>
      rw [List.map_cons, List.mem_cons, not_or] at hkey
      rw [insertEntry, if_neg (Ne.symm hkey.1), ih hkey.2, List.cons_append]

/-- A map without repeated keys is built from its own entries. -/
theorem ofList_entries {map : OrderedMap κ α} (hkeys : map.keys.Nodup) :
    ofList map.entries = map := by
  obtain ⟨entries⟩ := map
  induction entries using List.reverseRecOn with
  | nil => rfl
  | append_singleton entries entry ih =>
      rw [keys, List.map_append, List.nodup_append] at hkeys
      obtain ⟨hentries, _, hfresh⟩ := hkeys
      have hnew : entry.1 ∉ entries.map Prod.fst :=
        fun hmem => hfresh entry.1 hmem entry.1 (by simp) rfl
      rw [ofList_concat, ih hentries, insert, insertEntry_of_not_mem _ hnew]

/-- Inserting the map of some entries inserts these entries. -/
theorem insertAll_entries_ofList {map : OrderedMap κ α}
    (hkeys : map.keys.Nodup) (entries : List (κ × α)) :
    map.insertAll (ofList entries).entries = map.insertAll entries := by
  have hsame : ofList (ofList entries).entries = ofList entries :=
    ofList_entries (keys_ofList_nodup entries)
  refine eq_of_keys_of_get? (keys_insertAll_nodup hkeys _) ?_ ?_
  · rw [keys_insertAll, keys_insertAll, hsame]
  · intro key
    rw [get?_insertAll, get?_insertAll, hsame]

end ComponentDocs.OrderedMap
