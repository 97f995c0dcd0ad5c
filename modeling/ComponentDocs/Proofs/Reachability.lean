import ComponentDocs.Proofs.Inheritance

/-!
Which shapes a resolution visits, and which names it collects.

A run visits every declared shape that its bases reach, and no other one. The
invariant is the usual one of a depth-first search: a shape that has been left
again has all its declared bases among the visited ones. Names are never lost on
the way, because whatever a shape declares itself stands in the list that is
handed back to it.
-/

namespace ComponentDocs

/-- One name is a base of another, under a way to look shapes up. -/
def Extends (lookup : String → Option ShapeSource) (name base : String) :
    Prop :=
  ∃ shape, lookup name = some shape ∧ base ∈ shape.bases

/-- One name is reached from another through any number of bases. -/
def Reaches (lookup : String → Option ShapeSource) : String → String → Prop :=
  Relation.ReflTransGen (Extends lookup)

theorem Reaches.refl (lookup : String → Option ShapeSource) (name : String) :
    Reaches lookup name name :=
  Relation.ReflTransGen.refl

theorem Reaches.of_base {lookup : String → Option ShapeSource}
    {name base target : String} {shape : ShapeSource}
    (hname : lookup name = some shape) (hbase : base ∈ shape.bases)
    (hreach : Reaches lookup base target) : Reaches lookup name target :=
  Relation.ReflTransGen.head ⟨shape, hname, hbase⟩ hreach

/-- A set that holds a name and the bases of its members holds what is reached. -/
theorem Reaches.mem_of_closed {lookup : String → Option ShapeSource}
    {name target : String} {names : List String}
    (hreach : Reaches lookup name target) (hname : name ∈ names)
    (hclosed : ∀ member ∈ names, ∀ shape, lookup member = some shape →
      ∀ base ∈ shape.bases, base ∈ names) : target ∈ names := by
  induction hreach with
  | refl => exact hname
  | tail _ hstep ih =>
      obtain ⟨shape, hshape, hbase⟩ := hstep
      exact hclosed _ ih shape hshape _ hbase

/-- The declared bases of a name are all among some names. -/
def ShapeTable.BasesIn (table : ShapeTable) (names : List String)
    (name : String) : Prop :=
  ∀ shape, table.get? name = some shape →
    ∀ base ∈ shape.bases, table.get? base ≠ none → base ∈ names

section Runs

variable {table : ShapeTable} {own : ShapeSource → List PropMember}
variable {state final : Resolution} {bases : List String}

theorem ShapeTable.BasesIn.mono {names larger : List String} {name : String}
    (hbases : table.BasesIn names name)
    (hsubset : ∀ base ∈ names, base ∈ larger) : table.BasesIn larger name :=
  fun shape hshape base hbase hdeclared =>
    hsubset base (hbases shape hshape base hbase hdeclared)

/-- Behind a run all its declared bases have been visited. -/
theorem Inherits.bases_visited (hrun : Inherits table own state bases final)
    {base : String} (hbase : base ∈ bases) (hdeclared : table.get? base ≠ none) :
    base ∈ final.visited := by
  induction hrun with
  | done => simp at hbase
  | unknown hnone _ ih =>
      rcases List.mem_cons.mp hbase with rfl | hrest
      · exact absurd hnone hdeclared
      · exact ih hrest
  | again _ hvisited hrun ih =>
      rcases List.mem_cons.mp hbase with rfl | hrest
      · exact hrun.visited_mono hvisited
      · exact ih hrest
  | visit _ _ hinner hrun _ ihrest =>
      rcases List.mem_cons.mp hbase with rfl | hrest
      · exact hrun.visited_mono (hinner.visited_mono List.mem_cons_self)
      · exact ihrest hrest

/-- A shape that a run has visited has no unvisited base when the run ends. -/
theorem Inherits.new_basesIn (hrun : Inherits table own state bases final)
    {name : String} (hname : name ∈ final.visited)
    (hnew : name ∉ state.visited) : table.BasesIn final.visited name := by
  induction hrun with
  | done => exact absurd hname hnew
  | unknown _ _ ih => exact ih hname hnew
  | again _ _ _ ih => exact ih hname hnew
  | @visit state inner final base bases shape hbase _ hinner hrun ihinner
      ihrest =>
      by_cases hmem : name ∈ inner.visited
      · have hinside : table.BasesIn inner.visited name := by
          by_cases heq : name = base
          · -- the shape that is left: its own bases were run over just now
            subst heq
            intro shape' hshape other hother hdeclared
            rw [hbase, Option.some.injEq] at hshape
            subst hshape
            exact hinner.bases_visited hother hdeclared
          · exact ihinner hmem (by simp [heq, hnew])
        exact hinside.mono (fun other hother => hrun.visited_mono hother)
      · exact ihrest hname hmem

/-- A run only visits declared shapes that its bases reach. -/
theorem Inherits.new_reached (hrun : Inherits table own state bases final)
    {name : String} (hname : name ∈ final.visited)
    (hnew : name ∉ state.visited) :
    table.get? name ≠ none ∧ ∃ base ∈ bases, Reaches table.get? base name := by
  induction hrun with
  | done => exact absurd hname hnew
  | unknown _ _ ih =>
      obtain ⟨hdeclared, base, hbase, hreach⟩ := ih hname hnew
      exact ⟨hdeclared, base, List.mem_cons_of_mem _ hbase, hreach⟩
  | again _ _ _ ih =>
      obtain ⟨hdeclared, base, hbase, hreach⟩ := ih hname hnew
      exact ⟨hdeclared, base, List.mem_cons_of_mem _ hbase, hreach⟩
  | @visit state inner final base bases shape hbase _ _ _ ihinner ihrest =>
      by_cases hmem : name ∈ inner.visited
      · by_cases heq : name = base
        · subst heq
          exact ⟨by simp [hbase], name, List.mem_cons_self, Reaches.refl _ name⟩
        · obtain ⟨hdeclared, other, hother, hreach⟩ :=
            ihinner hmem (by simp [heq, hnew])
          exact ⟨hdeclared, base, List.mem_cons_self,
            Reaches.of_base hbase hother hreach⟩
      · obtain ⟨hdeclared, other, hother, hreach⟩ := ihrest hname hmem
        exact ⟨hdeclared, other, List.mem_cons_of_mem _ hother, hreach⟩

/-- Behind a run the names are those from before and those of new shapes. -/
theorem Inherits.mem_namesOf_iff (hrun : Inherits table own state bases final)
    {name : String} :
    name ∈ namesOf final.members ↔
      name ∈ namesOf state.members ∨
        ∃ visited ∈ final.visited, visited ∉ state.visited ∧
          ∃ shape, table.get? visited = some shape ∧
            name ∈ namesOf (own shape) := by
  induction hrun with
  | done =>
      constructor
      · exact Or.inl
      · rintro (hname | ⟨visited, hmem, hnew, _⟩)
        · exact hname
        · exact absurd hmem hnew
  | unknown _ _ ih => exact ih
  | again _ _ _ ih => exact ih
  | @visit state inner final base bases shape hbase hfresh hinner hrun ihinner
      ihrest =>
      rw [ihrest]
      simp only [Resolution.absorb, mem_namesOf_addMissing, ihinner]
      constructor
      · rintro ((hold | hown | ⟨visited, hmem, hnew, hshape⟩) |
          ⟨visited, hmem, hnew, hshape⟩)
        · exact Or.inl hold
        · exact Or.inr ⟨base,
            hrun.visited_mono (hinner.visited_mono List.mem_cons_self), hfresh,
            shape, hbase, hown⟩
        · exact Or.inr ⟨visited, hrun.visited_mono hmem,
            fun hold => hnew (List.mem_cons_of_mem _ hold), hshape⟩
        · exact Or.inr ⟨visited, hmem,
            fun hold => hnew (hinner.visited_mono (List.mem_cons_of_mem _ hold)),
            hshape⟩
      · rintro (hold | ⟨visited, hmem, hnew, hshape⟩)
        · exact Or.inl (Or.inl hold)
        · by_cases hinside : visited ∈ inner.visited
          · by_cases heq : visited = base
            · subst heq
              obtain ⟨shape', hshape', hown⟩ := hshape
              rw [hbase, Option.some.injEq] at hshape'
              subst hshape'
              exact Or.inl (Or.inr (Or.inl hown))
            · exact Or.inl (Or.inr (Or.inr
                ⟨visited, hinside, by simp [heq, hnew], hshape⟩))
          · exact Or.inr ⟨visited, hmem, hinside, hshape⟩

/-- A run only adds members that are missing. -/
theorem Inherits.members_eq_addMissing
    (hrun : Inherits table own state bases final) :
    ∃ inherited, final.members = addMissing state.members inherited := by
  induction hrun with
  | done => exact ⟨[], rfl⟩
  | unknown _ _ ih => exact ih
  | again _ _ _ ih => exact ih
  | @visit state inner final base bases shape hbase hfresh hinner hrun ihinner
      ihrest =>
      obtain ⟨inherited, hfinal⟩ := ihrest
      exact ⟨inner.members ++ inherited, by rw [hfinal, addMissing_append]; rfl⟩

/-- A run does not depend on shapes that its bases do not reach. -/
theorem Inherits.of_agreement (hrun : Inherits table own state bases final)
    {otherTable : ShapeTable} {otherOwn : ShapeSource → List PropMember}
    (hagree : ∀ base ∈ bases, ∀ name, Reaches table.get? base name →
      otherTable.get? name = table.get? name ∧
        ∀ shape, table.get? name = some shape → otherOwn shape = own shape) :
    Inherits otherTable otherOwn state bases final := by
  induction hrun with
  | done state => exact .done state
  | @unknown _ _ base _ hbase _ ih =>
      have hsame := hagree base List.mem_cons_self base (Reaches.refl _ base)
      exact .unknown (hsame.1.trans hbase) (ih fun other hother =>
        hagree other (List.mem_cons_of_mem base hother))
  | @again _ _ base _ _ hbase hvisited _ ih =>
      have hsame := hagree base List.mem_cons_self base (Reaches.refl _ base)
      exact .again (hsame.1.trans hbase) hvisited (ih fun other hother =>
        hagree other (List.mem_cons_of_mem base hother))
  | @visit state inner _ base _ shape hbase hfresh _ _ ihinner ihrest =>
      have hsame := hagree base List.mem_cons_self base (Reaches.refl _ base)
      have hinner : Inherits otherTable otherOwn
          ⟨otherOwn shape, base :: state.visited, []⟩ shape.bases inner := by
        rw [hsame.2 shape hbase]
        exact ihinner fun other hother name hreach =>
          hagree base List.mem_cons_self name
            (Reaches.of_base hbase hother hreach)
      exact .visit (hsame.1.trans hbase) hfresh hinner (ihrest fun other hother =>
        hagree other (List.mem_cons_of_mem base hother))

end Runs

section Roots

variable {table : ShapeTable} {own : ShapeSource → List PropMember}
variable {name : String} {shape : ShapeSource} {final : Resolution}

/-- From a root, exactly the declared shapes that it reaches are visited. -/
theorem Inherits.mem_visited_iff (hname : table.get? name = some shape)
    (hrun : Inherits table own ⟨own shape, [name], []⟩ shape.bases final)
    {visited : String} :
    visited ∈ final.visited ↔
      table.get? visited ≠ none ∧ Reaches table.get? name visited := by
  have hroot : name ∈ final.visited := hrun.visited_mono List.mem_cons_self
  constructor
  · intro hmem
    by_cases heq : visited = name
    · subst heq
      exact ⟨by simp [hname], Reaches.refl _ visited⟩
    · obtain ⟨hdeclared, base, hbase, hreach⟩ :=
        hrun.new_reached hmem (by simp [heq])
      exact ⟨hdeclared, Reaches.of_base hname hbase hreach⟩
  · rintro ⟨hdeclared, hreach⟩
    have hclosed : ∀ member ∈ final.visited,
        table.BasesIn final.visited member := by
      intro member hmember
      by_cases heq : member = name
      · subst heq
        intro shape' hshape base hbase hbaseDeclared
        rw [hname, Option.some.injEq] at hshape
        subst hshape
        exact hrun.bases_visited hbase hbaseDeclared
      · exact hrun.new_basesIn hmember (by simp [heq])
    induction hreach with
    | refl => exact hroot
    | tail _ hstep ih =>
        obtain ⟨shape', hshape, hbase⟩ := hstep
        exact hclosed _ (ih (by simp [hshape])) shape' hshape _ hbase hdeclared

/-- The names of a resolved shape are those of all shapes that it reaches. -/
theorem mem_namesOf_resolveUpTo_iff (hname : table.get? name = some shape)
    {n : Nat} (hbound : table.size < n) {member : String} :
    member ∈ namesOf (resolveUpTo table own n name []).members ↔
      ∃ ancestor source, Reaches table.get? name ancestor ∧
        table.get? ancestor = some source ∧ member ∈ namesOf (own source) := by
  have hrun := resolveUpTo_inherits own hname hbound
  rw [hrun.mem_namesOf_iff]
  constructor
  · rintro (hown | ⟨visited, hmem, _, source, hsource, hown⟩)
    · exact ⟨name, shape, Reaches.refl _ name, hname, hown⟩
    · exact ⟨visited, source, ((hrun.mem_visited_iff hname).mp hmem).2, hsource,
        hown⟩
  · rintro ⟨ancestor, source, hreach, hsource, hown⟩
    by_cases heq : ancestor = name
    · subst heq
      rw [hname, Option.some.injEq] at hsource
      subst hsource
      exact Or.inl hown
    · have hmem := (hrun.mem_visited_iff hname).mpr
        ⟨by simp [hsource], hreach⟩
      exact Or.inr ⟨ancestor, hmem, by simp [heq], source, hsource, hown⟩

/-- Two tables that agree on what a root reaches resolve it alike. -/
theorem resolveUpTo_congr {otherTable : ShapeTable}
    {otherOwn : ShapeSource → List PropMember}
    (hagree : ∀ reached, Reaches table.get? name reached →
      otherTable.get? reached = table.get? reached ∧
        ∀ shape, table.get? reached = some shape →
          otherOwn shape = own shape) :
    resolveUpTo otherTable otherOwn (otherTable.size + 1) name [] =
      resolveUpTo table own (table.size + 1) name [] := by
  have hroot := hagree name (Reaches.refl _ name)
  cases hname : table.get? name with
  | none =>
      rw [resolveUpTo_unknown hname, resolveUpTo_unknown (hroot.1.trans hname)]
  | some shape =>
      have hrun := resolveUpTo_inherits own hname
        (Nat.lt_succ_self table.size)
      have hother := resolveUpTo_inherits otherOwn
        (hroot.1.trans hname) (Nat.lt_succ_self otherTable.size)
      rw [hroot.2 shape hname] at hother
      exact (hrun.of_agreement fun base hbase reached hreach =>
        hagree reached (Reaches.of_base hname hbase hreach)).functional hother

end Roots

end ComponentDocs
