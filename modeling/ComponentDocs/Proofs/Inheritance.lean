import ComponentDocs.Proofs.OrderedMap
import ComponentDocs.Shape
import Mathlib.Logic.Relation

/-!
Resolution over an arbitrary graph of bases.

`Inherits` describes a run over a list of bases, one rule for each thing that
can happen to a base, and without a bound. `inherits_foldl` shows that the
bounded resolution is such a run whenever the bound exceeds the number of shapes
that are still to be visited. Every other fact is then an induction over runs:
which shapes are visited, which names are collected, and that a run only
depends on the shapes that can be reached from its bases.
-/

namespace ComponentDocs

open Source

/-! ### Adding missing members -/

/-- The names of members, in order. -/
def namesOf (members : List PropMember) : List String :=
  members.map PropMember.name

theorem namesOf_append (first second : List PropMember) :
    namesOf (first ++ second) = namesOf first ++ namesOf second :=
  List.map_append

theorem mem_namesOf {members : List PropMember} {name : String} :
    name ∈ namesOf members ↔ ∃ member ∈ members, member.name = name :=
  List.mem_map

theorem addMissing_nil (members : List PropMember) :
    addMissing members [] = members := rfl

theorem addMissing_cons (members : List PropMember) (member : PropMember)
    (rest : List PropMember) :
    addMissing members (member :: rest) =
      addMissing (if member.name ∈ namesOf members then members
        else members ++ [member]) rest := by
  simp only [addMissing, List.foldl_cons, List.any_eq_true, decide_eq_true_eq,
    mem_namesOf]

theorem addMissing_append (members first second : List PropMember) :
    addMissing members (first ++ second) =
      addMissing (addMissing members first) second :=
  List.foldl_append

theorem mem_namesOf_addMissing {members inherited : List PropMember}
    {name : String} :
    name ∈ namesOf (addMissing members inherited) ↔
      name ∈ namesOf members ∨ name ∈ namesOf inherited := by
  induction inherited generalizing members with
  | nil => simp [addMissing_nil, namesOf]
  | cons member rest ih =>
      rw [addMissing_cons, ih]
      by_cases hmem : member.name ∈ namesOf members
      · rw [if_pos hmem]
        constructor
        · rintro (hold | hrest)
          · exact Or.inl hold
          · exact Or.inr (List.mem_cons_of_mem _ hrest)
        · rintro (hold | hnew)
          · exact Or.inl hold
          · rcases List.mem_cons.mp hnew with rfl | hrest
            · exact Or.inl hmem
            · exact Or.inr hrest
      · rw [if_neg hmem, namesOf_append]
        simp [namesOf, or_assoc]

/-- Members whose names are all there add nothing. -/
theorem addMissing_eq_self {members inherited : List PropMember}
    (hcovered : ∀ member ∈ inherited, member.name ∈ namesOf members) :
    addMissing members inherited = members := by
  induction inherited with
  | nil => rfl
  | cons member rest ih =>
      rw [addMissing_cons, if_pos (hcovered member List.mem_cons_self)]
      exact ih (fun other hother =>
        hcovered other (List.mem_cons_of_mem member hother))

theorem addMissing_self (members : List PropMember) :
    addMissing members members = members :=
  addMissing_eq_self (fun member hmember => mem_namesOf.mpr ⟨member, hmember, rfl⟩)

/-- Filtering on the way up is filtering once at the top. -/
theorem addMissing_assoc (first second third : List PropMember) :
    addMissing first (addMissing second third) =
      addMissing (addMissing first second) third := by
  induction third generalizing second with
  | nil => rfl
  | cons member rest ih =>
      rw [addMissing_cons, ih, addMissing_cons]
      by_cases hmem : member.name ∈ namesOf second
      · rw [if_pos hmem, if_pos (mem_namesOf_addMissing.mpr (Or.inr hmem))]
      · rw [if_neg hmem, addMissing_append, addMissing_cons, addMissing_nil]

/-- What is there stays in front. -/
theorem addMissing_eq_append (members inherited : List PropMember) :
    ∃ added, addMissing members inherited = members ++ added := by
  induction inherited generalizing members with
  | nil => exact ⟨[], (List.append_nil members).symm⟩
  | cons member rest ih =>
      rw [addMissing_cons]
      split
      · exact ih members
      · obtain ⟨added, hadded⟩ := ih (members ++ [member])
        exact ⟨member :: added, by rw [hadded, List.append_assoc]; rfl⟩

theorem foldl_addMissing (collect : String → List PropMember)
    (bases : List String) (members : List PropMember) :
    bases.foldl (fun members base => addMissing members (collect base)) members =
      addMissing members (bases.flatMap collect) := by
  induction bases generalizing members with
  | nil => rfl
  | cons base bases ih =>
      rw [List.foldl_cons, ih, List.flatMap_cons, addMissing_append]

/-! ### Runs over bases -/

/-- Takes over what the resolution of a base has found. -/
def Resolution.absorb (state inherited : Resolution) : Resolution :=
  ⟨addMissing state.members inherited.members, inherited.visited,
    state.repeated ++ inherited.repeated⟩

/--
A run over bases, with the states before and behind it. A base that is not
declared is passed over, one that has been visited is noted, and any other one
is visited: its own bases are run over first, and what they give is absorbed.
-/
inductive Inherits (table : ShapeTable) (own : ShapeSource → List PropMember) :
    Resolution → List String → Resolution → Prop where
  | done (state : Resolution) : Inherits table own state [] state
  | unknown {state final : Resolution} {base : String} {bases : List String}
      (hbase : table.get? base = none)
      (hrest : Inherits table own state bases final) :
      Inherits table own state (base :: bases) final
  | again {state final : Resolution} {base : String} {bases : List String}
      {shape : ShapeSource}
      (hbase : table.get? base = some shape)
      (hvisited : base ∈ state.visited)
      (hrest : Inherits table own
        (state.absorb ⟨[], state.visited, [base]⟩) bases final) :
      Inherits table own state (base :: bases) final
  | visit {state inner final : Resolution} {base : String}
      {bases : List String} {shape : ShapeSource}
      (hbase : table.get? base = some shape)
      (hfresh : base ∉ state.visited)
      (hinner : Inherits table own ⟨own shape, base :: state.visited, []⟩
        shape.bases inner)
      (hrest : Inherits table own (state.absorb inner) bases final) :
      Inherits table own state (base :: bases) final

section Runs

variable {table : ShapeTable} {own : ShapeSource → List PropMember}
variable {state final : Resolution} {bases : List String}

theorem Inherits.visited_mono (hrun : Inherits table own state bases final)
    {name : String} (hname : name ∈ state.visited) : name ∈ final.visited := by
  induction hrun with
  | done => exact hname
  | unknown _ _ ih => exact ih hname
  | again _ _ _ ih => exact ih hname
  | visit _ _ _ _ ihinner ihrest =>
      exact ihrest (ihinner (List.mem_cons_of_mem _ hname))

/-- The state behind a run is determined by the state before it. -/
theorem Inherits.functional (hrun : Inherits table own state bases final)
    {other : Resolution} (hother : Inherits table own state bases other) :
    other = final := by
  induction hrun generalizing other with
  | done => cases hother with | done => rfl
  | unknown hbase _ ih =>
      cases hother with
      | unknown _ hrest => exact ih hrest
      | again hsome _ _ => simp [hbase] at hsome
      | visit hsome _ _ _ => simp [hbase] at hsome
  | again hbase hvisited _ ih =>
      cases hother with
      | unknown hnone _ => simp [hbase] at hnone
      | again _ _ hrest => exact ih hrest
      | visit _ hfresh _ _ => exact absurd hvisited hfresh
  | visit hbase hfresh _ _ ihinner ihrest =>
      cases hother with
      | unknown hnone _ => simp [hbase] at hnone
      | again _ hvisited _ => exact absurd hvisited hfresh
      | visit hsome _ hinner hrest =>
          rw [hbase, Option.some.injEq] at hsome
          subst hsome
          rw [ihinner hinner] at hrest
          exact ihrest hrest

/-! ### The bound is never reached -/

/-- How many entries of the table are still to be visited. -/
def ShapeTable.unvisited (table : ShapeTable) (visited : List String) : Nat :=
  table.keys.countP (fun name => name ∉ visited)

theorem unvisited_le_of_subset {visited larger : List String}
    (hsubset : ∀ name ∈ visited, name ∈ larger) :
    table.unvisited larger ≤ table.unvisited visited := by
  apply List.countP_mono_left
  intro name _ hname
  simp only [decide_eq_true_eq] at hname ⊢
  exact fun hmem => hname (hsubset name hmem)

theorem unvisited_cons_lt {name : String} {shape : ShapeSource}
    {visited : List String} (hname : table.get? name = some shape)
    (hfresh : name ∉ visited) :
    table.unvisited (name :: visited) < table.unvisited visited := by
  have hkey : name ∈ table.keys := by
    rw [← OrderedMap.get?_isSome_iff, hname]
    rfl
  unfold ShapeTable.unvisited
  obtain ⟨front, back, hkeys⟩ := List.append_of_mem hkey
  have hle : ∀ names : List String,
      names.countP (fun key => key ∉ name :: visited) ≤
        names.countP (fun key => key ∉ visited) := by
    intro names
    apply List.countP_mono_left
    intro key _ hmem
    simp only [List.mem_cons, not_or, decide_eq_true_eq] at hmem ⊢
    exact hmem.2
  have hfront := hle front
  have hback := hle back
  simp only [hkeys, List.countP_append, List.countP_cons, List.mem_cons,
    true_or, not_true_eq_false, decide_false, Bool.false_eq_true, ↓reduceIte,
    hfresh, not_false_eq_true, decide_true] at hfront hback ⊢
  omega

theorem unvisited_le_size (table : ShapeTable) (visited : List String) :
    table.unvisited visited ≤ table.size := by
  have hle := List.countP_le_length
    (p := fun name => decide (name ∉ visited)) (l := table.keys)
  simpa [ShapeTable.unvisited, OrderedMap.keys, OrderedMap.size] using hle

theorem resolveUpTo_unknown {name : String} (hname : table.get? name = none)
    (n : Nat) (visited : List String) :
    resolveUpTo table own n name visited = ⟨[], visited, []⟩ := by
  cases n with
  | zero => rfl
  | succ n => simp [resolveUpTo, hname]

theorem resolveUpTo_again {name : String} {shape : ShapeSource}
    {visited : List String} (hname : table.get? name = some shape)
    (hvisited : name ∈ visited) (n : Nat) :
    resolveUpTo table own (n + 1) name visited = ⟨[], visited, [name]⟩ := by
  simp [resolveUpTo, hname, hvisited]

theorem resolveUpTo_fresh {name : String} {shape : ShapeSource}
    {visited : List String} (hname : table.get? name = some shape)
    (hfresh : name ∉ visited) (n : Nat) :
    resolveUpTo table own (n + 1) name visited =
      shape.bases.foldl
        (fun state base =>
          state.absorb (resolveUpTo table own n base state.visited))
        ⟨own shape, name :: visited, []⟩ := by
  simp only [resolveUpTo, hname, List.contains_eq_mem, hfresh, decide_false,
    Bool.false_eq_true, ↓reduceIte, Resolution.absorb]

theorem Resolution.absorb_nothing (state : Resolution) :
    state.absorb ⟨[], state.visited, []⟩ = state := by
  simp [Resolution.absorb, addMissing_nil]

/-- A bound that exceeds what is still to be visited makes no difference. -/
theorem inherits_foldl {n : Nat}
    (hbound : table.unvisited state.visited < n) :
    Inherits table own state bases (bases.foldl
      (fun state base =>
        state.absorb (resolveUpTo table own n base state.visited)) state) := by
  induction n generalizing state bases with
  | zero => exact absurd hbound (Nat.not_lt_zero _)
  | succ n ih =>
      induction bases generalizing state with
      | nil => exact .done state
      | cons base bases ihbases =>
          rw [List.foldl_cons]
          cases hbase : table.get? base with
          | none =>
              rw [resolveUpTo_unknown hbase, Resolution.absorb_nothing]
              exact .unknown hbase (ihbases hbound)
          | some shape =>
              by_cases hvisited : base ∈ state.visited
              · rw [resolveUpTo_again hbase hvisited]
                exact .again hbase hvisited (ihbases hbound)
              · rw [resolveUpTo_fresh hbase hvisited]
                have hsmaller := unvisited_cons_lt hbase hvisited
                have hinner : Inherits table own
                    ⟨own shape, base :: state.visited, []⟩ shape.bases _ :=
                  ih (by dsimp only; omega)
                refine .visit hbase hvisited hinner (ihbases ?_)
                refine Nat.lt_of_le_of_lt (unvisited_le_of_subset ?_) hbound
                intro name hname
                exact hinner.visited_mono (List.mem_cons_of_mem base hname)

end Runs

section Roots

variable {table : ShapeTable} {name : String} {shape : ShapeSource}

/-- The resolution of a declared name is a run over its bases. -/
theorem resolveUpTo_inherits (own : ShapeSource → List PropMember)
    (hname : table.get? name = some shape) {n : Nat} (hbound : table.size < n) :
    Inherits table own ⟨own shape, [name], []⟩ shape.bases
      (resolveUpTo table own n name []) := by
  cases n with
  | zero => exact absurd hbound (Nat.not_lt_zero _)
  | succ n =>
      have hfresh : name ∉ ([] : List String) := List.not_mem_nil
      rw [resolveUpTo_fresh hname hfresh]
      apply inherits_foldl
      have hsmaller := unvisited_cons_lt hname hfresh
      have hsize := unvisited_le_size table []
      dsimp only
      omega

/-- Resolution ends by itself: a larger bound gives the same answer. -/
theorem resolveUpTo_eq_of_size_lt (own : ShapeSource → List PropMember)
    (name : String) {first second : Nat}
    (hfirst : table.size < first) (hsecond : table.size < second) :
    resolveUpTo table own first name [] =
      resolveUpTo table own second name [] := by
  cases hname : table.get? name with
  | none => rw [resolveUpTo_unknown hname, resolveUpTo_unknown hname]
  | some shape =>
      exact (resolveUpTo_inherits own hname hsecond).functional
        (resolveUpTo_inherits own hname hfirst)

end Roots

end ComponentDocs
