import ComponentDocs.Proofs.Reachability

/-!
One set of visited shapes is as good as one for each path.

The plain way to resolve a shape only refuses to enter a shape that is being
resolved right now, and resolves a base anew each time it is met. Resolution
with a single set of visited shapes gives the same members in the same order.
The two differ inside a diamond: a second visit gives nothing, where the plain
way gives the base again. The difference is lost on the way up, because the
names of a shape that has been left stand in a list that still waits.
-/

namespace ComponentDocs

/--
The members of a shape with those it inherits, where `path` are the shapes that
are being resolved. A shape on the path gives nothing.
-/
def membersOnPath (table : ShapeTable) (own : ShapeSource → List PropMember)
    (path : List String) (name : String) : List PropMember :=
  match _hname : table.get? name with
  | none => []
  | some shape =>
      if _hpath : name ∈ path then
        []
      else
        shape.bases.foldl
          (fun members base =>
            addMissing members (membersOnPath table own (name :: path) base))
          (own shape)
termination_by table.unvisited path
decreasing_by exact unvisited_cons_lt _hname _hpath

section Paths

variable {table : ShapeTable} {own : ShapeSource → List PropMember}
variable {path : List String} {name : String} {shape : ShapeSource}

theorem membersOnPath_unknown (hname : table.get? name = none) :
    membersOnPath table own path name = [] := by
  rw [membersOnPath]
  split
  · rfl
  · rename_i hsome
    simp [hname] at hsome

theorem membersOnPath_again (hpath : name ∈ path) :
    membersOnPath table own path name = [] := by
  rw [membersOnPath]
  split
  · rfl
  · simp [hpath]

theorem membersOnPath_fresh (hname : table.get? name = some shape)
    (hpath : name ∉ path) :
    membersOnPath table own path name =
      shape.bases.foldl
        (fun members base =>
          addMissing members (membersOnPath table own (name :: path) base))
        (own shape) := by
  rw [membersOnPath]
  split
  · rename_i hnone
    simp [hname] at hnone
  · rename_i shape' hsome
    rw [hname, Option.some.injEq] at hsome
    subst hsome
    simp only [hpath, ↓reduceDIte]

/-- What the visited shapes declare themselves is named in some members. -/
def Covers (table : ShapeTable) (own : ShapeSource → List PropMember)
    (members : List PropMember) (visited : List String) : Prop :=
  ∀ name ∈ visited, ∀ shape, table.get? name = some shape →
    ∀ member ∈ own shape, member.name ∈ namesOf members

/-- The shapes that have been left have no unvisited base. -/
def LeftClosed (table : ShapeTable) (path visited : List String) : Prop :=
  ∀ name ∈ visited, name ∉ path → table.BasesIn visited name

theorem Covers.addMissing {members inherited : List PropMember}
    {visited : List String} (hcovers : Covers table own members visited) :
    Covers table own (addMissing members inherited) visited :=
  fun name hname shape hshape member hmember =>
    mem_namesOf_addMissing.mpr
      (Or.inl (hcovers name hname shape hshape member hmember))

/--
Going once more through a shape that has been left only meets shapes that have
been visited, so it finds no name that is not covered.
-/
theorem membersOnPath_covered {visited : List String}
    {members : List PropMember} (hclosed : LeftClosed table path visited)
    (hcovers : Covers table own members visited)
    (hname : table.get? name ≠ none → name ∈ visited) :
    ∀ member ∈ membersOnPath table own path name,
      member.name ∈ namesOf members := by
  induction hsize : table.unvisited path using Nat.strongRecOn
    generalizing path name with
  | ind size ih =>
      intro member hmember
      cases hshape : table.get? name with
      | none => simp [membersOnPath_unknown hshape] at hmember
      | some shape =>
          have hvisited := hname (by simp [hshape])
          by_cases hpath : name ∈ path
          · simp [membersOnPath_again hpath] at hmember
          · rw [membersOnPath_fresh hshape hpath, foldl_addMissing] at hmember
            have hnames := mem_namesOf_addMissing.mp
              (mem_namesOf.mpr ⟨member, hmember, rfl⟩)
            rcases hnames with hown | hbases
            · obtain ⟨declared, hdeclared, heq⟩ := mem_namesOf.mp hown
              rw [← heq]
              exact hcovers name hvisited shape hshape declared hdeclared
            · obtain ⟨inherited, hinherited, heq⟩ := mem_namesOf.mp hbases
              obtain ⟨base, hbase, hmem⟩ := List.mem_flatMap.mp hinherited
              rw [← heq]
              refine ih _ ?_ ?_ ?_ rfl inherited hmem
              · rw [← hsize]
                exact unvisited_cons_lt hshape hpath
              · intro other hother hoff
                exact hclosed other hother
                  (fun hon => hoff (List.mem_cons_of_mem name hon))
              · exact hclosed name hvisited hpath shape hshape base hbase

end Paths

section Runs

variable {table : ShapeTable} {own : ShapeSource → List PropMember}
variable {state inner final : Resolution} {base : String}
variable {path bases : List String} {shape : ShapeSource}

/-- Behind the visit of a base its members cover all that has been visited. -/
theorem Inherits.covers_visit {outer : List PropMember}
    (hbase : table.get? base = some shape)
    (hinner : Inherits table own ⟨own shape, base :: state.visited, []⟩
      shape.bases inner)
    (hcovers : Covers table own outer state.visited) :
    Covers table own (addMissing outer inner.members) inner.visited := by
  intro name hname source hsource member hmember
  have hdeclared : member.name ∈ namesOf (own source) :=
    mem_namesOf.mpr ⟨member, hmember, rfl⟩
  rw [mem_namesOf_addMissing]
  by_cases hold : name ∈ base :: state.visited
  · rcases List.mem_cons.mp hold with rfl | hvisited
    · rw [hbase, Option.some.injEq] at hsource
      subst hsource
      exact Or.inr (hinner.mem_namesOf_iff.mpr (Or.inl hdeclared))
    · exact Or.inl (hcovers name hvisited source hsource member hmember)
  · exact Or.inr (hinner.mem_namesOf_iff.mpr
      (Or.inr ⟨name, hname, hold, source, hsource, hdeclared⟩))

/-- Behind the visit of a base it has been left, with what it has visited. -/
theorem Inherits.leftClosed_visit
    (hbase : table.get? base = some shape)
    (hinner : Inherits table own ⟨own shape, base :: state.visited, []⟩
      shape.bases inner)
    (hclosed : LeftClosed table path state.visited) :
    LeftClosed table path inner.visited := by
  intro name hname hoff
  by_cases heq : name = base
  · subst heq
    intro source hsource other hother hdeclared
    rw [hbase, Option.some.injEq] at hsource
    subst hsource
    exact hinner.bases_visited hother hdeclared
  · by_cases hold : name ∈ state.visited
    · exact (hclosed name hold hoff).mono (fun other hother =>
        hinner.visited_mono (List.mem_cons_of_mem base hother))
    · exact hinner.new_basesIn hname (by simp [heq, hold])

/--
A run and the plain way add the same to whatever waits outside, as long as the
names of the visited shapes stand there.
-/
theorem Inherits.addMissing_eq (hrun : Inherits table own state bases final)
    (path : List String) (outer plain : List PropMember)
    (hpath : ∀ name ∈ path, name ∈ state.visited)
    (hclosed : LeftClosed table path state.visited)
    (hsame : addMissing outer state.members = addMissing outer plain)
    (hcovers : Covers table own (addMissing outer plain) state.visited) :
    addMissing outer final.members =
      addMissing outer (bases.foldl
        (fun members base =>
          addMissing members (membersOnPath table own path base)) plain) := by
  induction hrun generalizing path outer plain with
  | done => exact hsame
  | unknown hbase _ ih =>
      rw [List.foldl_cons, membersOnPath_unknown hbase, addMissing_nil]
      exact ih path outer plain hpath hclosed hsame hcovers
  | @again state final base bases shape hbase hvisited _ ih =>
      -- the plain way goes through the base once more and finds nothing new
      have hnothing : addMissing outer
          (addMissing plain (membersOnPath table own path base)) =
            addMissing outer plain := by
        rw [addMissing_assoc]
        exact addMissing_eq_self
          (membersOnPath_covered hclosed hcovers (fun _ => hvisited))
      rw [List.foldl_cons]
      refine ih path outer _ hpath hclosed ?_ ?_
      · exact hsame.trans hnothing.symm
      · rw [hnothing]
        exact hcovers
  | @visit state inner final base bases shape hbase hfresh hinner _ ihinner
      ihrest =>
      have hoff : base ∉ path := fun hon => hfresh (hpath base hon)
      have hvisit : addMissing (addMissing outer plain) inner.members =
          addMissing (addMissing outer plain)
            (membersOnPath table own path base) := by
        rw [membersOnPath_fresh hbase hoff]
        refine ihinner (base :: path) _ _ ?_ ?_ rfl ?_
        · intro name hname
          rcases List.mem_cons.mp hname with rfl | hname
          · exact List.mem_cons_self
          · exact List.mem_cons_of_mem base (hpath name hname)
        · intro name hname hoff
          rcases List.mem_cons.mp hname with rfl | hname
          · exact absurd List.mem_cons_self hoff
          · exact (hclosed name hname
              (fun hon => hoff (List.mem_cons_of_mem base hon))).mono
              (fun other hother => List.mem_cons_of_mem base hother)
        · intro name hname source hsource member hmember
          rw [mem_namesOf_addMissing]
          rcases List.mem_cons.mp hname with rfl | hname
          · rw [hbase, Option.some.injEq] at hsource
            subst hsource
            exact Or.inr (mem_namesOf.mpr ⟨member, hmember, rfl⟩)
          · exact Or.inl (hcovers name hname source hsource member hmember)
      have hleft : LeftClosed table path inner.visited :=
        hinner.leftClosed_visit hbase hclosed
      rw [List.foldl_cons]
      refine ihrest path outer _ ?_ hleft ?_ ?_
      · intro name hname
        exact hinner.visited_mono (List.mem_cons_of_mem base (hpath name hname))
      · rw [Resolution.absorb, addMissing_assoc, hsame, hvisit, addMissing_assoc]
      · rw [addMissing_assoc, ← hvisit]
        exact hinner.covers_visit hbase hcovers

end Runs

/-- With one set of visited shapes the members are those of the plain way. -/
theorem resolveUpTo_members_eq_membersOnPath (table : ShapeTable)
    (own : ShapeSource → List PropMember) (name : String) :
    (resolveUpTo table own (table.size + 1) name []).members =
      membersOnPath table own [] name := by
  cases hname : table.get? name with
  | none => rw [resolveUpTo_unknown hname, membersOnPath_unknown hname]
  | some shape =>
      have hrun := resolveUpTo_inherits own hname
        (Nat.lt_succ_self table.size)
      have hadded := hrun.addMissing_eq [name] (own shape) (own shape) (fun _ => id)
        (fun other hother hoff => absurd hother hoff) rfl (by
          intro other hother source hsource member hmember
          rw [List.mem_singleton] at hother
          subst hother
          rw [hname, Option.some.injEq] at hsource
          subst hsource
          rw [addMissing_self]
          exact mem_namesOf.mpr ⟨member, hmember, rfl⟩)
      -- both sides already start with the shape's own members
      obtain ⟨inherited, hinherited⟩ := hrun.members_eq_addMissing
      rw [hinherited, foldl_addMissing, addMissing_assoc, addMissing_assoc,
        addMissing_self] at hadded
      rw [hinherited, membersOnPath_fresh hname List.not_mem_nil,
        foldl_addMissing]
      exact hadded

/--
A single set of visited shapes, which is never emptied, changes nothing: for
every table, every way to read own members and every name, the members, their
order and the winner of each repeated name are those of the plain resolution.
-/
theorem shared_visited_set_is_unobservable (table : ShapeTable)
    (name : String) :
    (∀ own : ShapeSource → List PropMember,
      (resolveUpTo table own (table.size + 1) name []).members =
        membersOnPath table own [] name) ∧
    ∀ file : Source.File,
      (resolveShape file table name).members =
        membersOnPath table (ownMembers file) [] name :=
  ⟨fun own => resolveUpTo_members_eq_membersOnPath table own name,
    fun file => resolveUpTo_members_eq_membersOnPath table (ownMembers file) name⟩

end ComponentDocs
