import ComponentDocs.Source.File

/-!
What a default export can be.

The tree lets any declaration stand behind `export default`; the grammar puts
only classes, functions and interfaces there.
-/

namespace ComponentDocs.Source

/-- If a statement is a default export, it is one that the grammar has. -/
def Stmt.ExportsByGrammar : Stmt → Prop
  | .exportedDefault _ (.classDecl _) => True
  | .exportedDefault _ (.functionDecl _ _) => True
  | .exportedDefault _ (.interfaceDecl _ _ _ _ _) => True
  | .exportedDefault _ _ => False
  | _ => True

namespace Parse

/-- Whatever a parser gives has a property. -/
def Yields {α : Type} (parse : Parse α) (holds : α → Prop) : Prop :=
  ∀ context state value rest,
    parse context state = some (value, rest) → holds value

section Combinators

variable {α β : Type} {holds : α → Prop}

theorem yields_pure {value : α} (hvalue : holds value) :
    Yields (pure value) holds := by
  intro context state given rest hgiven
  obtain ⟨rfl, -⟩ := Prod.mk.inj (Option.some.inj hgiven)
  exact hvalue

theorem yields_fail : Yields fail holds := by
  intro context state given rest hgiven
  exact absurd hgiven (by simp [fail])

theorem yields_bind_of {parse : Parse β} {next : β → Parse α}
    {first : β → Prop} (hparse : Yields parse first)
    (hnext : ∀ value, first value → Yields (next value) holds) :
    Yields (parse >>= next) holds := by
  intro context state given rest hgiven
  simp only [bind] at hgiven
  cases hvalue : parse context state with
  | none =>
      rw [hvalue] at hgiven
      exact absurd hgiven (by simp)
  | some found =>
      obtain ⟨value, middle⟩ := found
      rw [hvalue] at hgiven
      exact hnext value (hparse context state value middle hvalue) _ _ _ _ hgiven

theorem yields_bind {parse : Parse β} {next : β → Parse α}
    (hnext : ∀ value, Yields (next value) holds) :
    Yields (parse >>= next) holds := by
  have hparse : Yields parse fun _ => True := fun _ _ _ _ _ => trivial
  exact yields_bind_of hparse fun value _ => hnext value

theorem yields_ite {condition : Prop} [Decidable condition]
    {yes no : Parse α} (hyes : Yields yes holds) (hno : Yields no holds) :
    Yields (if condition then yes else no) holds := by
  split
  · exact hyes
  · exact hno

end Combinators

variable (rules : Rules)

theorem interfaceFrom_yields (start : Nat) :
    Yields (interfaceFrom rules start) fun value =>
      ∃ span name generics bases members,
        value = .interfaceDecl span name generics bases members := by
  unfold interfaceFrom
  dsimp only
  repeat' first | refine yields_bind fun _ => ?_ | refine yields_ite ?_ ?_
  all_goals exact yields_pure ⟨_, _, _, _, _, rfl⟩

theorem exportDefault_yields (start : Nat) :
    Yields (exportDefault rules start) Stmt.ExportsByGrammar := by
  unfold exportDefault
  dsimp only
  -- Classes and functions are wrapped here; an interface comes as it is.
  repeat' first
    | refine yields_bind_of (interfaceFrom_yields rules _) ?_
    | refine yields_bind fun _ => ?_
    | refine yields_ite ?_ ?_
  all_goals first
    | exact yields_pure trivial
    | rintro _ ⟨span, name, generics, bases, members, rfl⟩
      exact yields_bind fun _ => yields_pure trivial

theorem exportRest_yields (start : Nat) (leading : List Part) :
    Yields (exportRest rules start leading) Stmt.ExportsByGrammar := by
  unfold exportRest
  repeat' first
    | refine yields_bind_of (exportDefault_yields rules start) fun _ hdefault => ?_
    | refine yields_bind fun _ => ?_
    | refine yields_ite ?_ ?_
    | split
  all_goals first
    | exact yields_pure trivial
    | exact yields_pure hdefault

theorem exportStatement_yields (leading : List Part) :
    Yields (exportStatement rules leading) Stmt.ExportsByGrammar := by
  refine yields_bind fun start => yields_bind fun _ => yields_bind fun _ =>
    yields_bind fun _ => ?_
  exact exportRest_yields rules start leading

theorem importStatement_yields :
    Yields (importStatement rules) Stmt.ExportsByGrammar := by
  unfold importStatement
  repeat refine yields_bind fun _ => ?_
  exact yields_pure trivial

theorem expressionStatement_yields :
    Yields (expressionStatement rules) Stmt.ExportsByGrammar := by
  unfold expressionStatement
  dsimp only
  repeat' first | refine yields_bind fun _ => ?_ | refine yields_ite ?_ ?_
  all_goals exact yields_pure trivial

theorem decoratedStatement_yields :
    Yields (decoratedStatement rules) Stmt.ExportsByGrammar := by
  unfold decoratedStatement
  refine yields_bind fun _ => yields_ite ?_ ?_
  · exact yields_bind fun leading => exportStatement_yields rules leading
  · exact yields_bind fun _ => yields_pure trivial

theorem statement_yields : Yields (statement rules) Stmt.ExportsByGrammar := by
  unfold statement
  refine yields_bind fun start => yields_bind fun token => ?_
  split
  · exact yields_bind fun _ => yields_bind fun _ => yields_pure trivial
  · exact yields_bind fun _ => yields_bind fun _ => yields_pure trivial
  · exact decoratedStatement_yields rules
  · refine yields_bind fun _ => yields_ite ?_ ?_
    · exact expressionStatement_yields rules
    · exact importStatement_yields rules
  · exact exportStatement_yields rules []
  · split
    · exact yields_bind fun _ => yields_bind fun _ => yields_pure trivial
    · refine yields_bind fun _ => yields_ite ?_ ?_
      · exact yields_bind fun _ => yields_pure trivial
      · exact expressionStatement_yields rules
  · exact expressionStatement_yields rules

theorem upTo_statement_yields (n : Nat) :
    Yields (Rules.upTo n).statement Stmt.ExportsByGrammar := by
  cases n with
  | zero => exact yields_fail
  | succ n => exact statement_yields (Rules.upTo n)

theorem repeatUpTo_yields {α : Type} {holds : α → Prop}
    {step : Parse (Option α)}
    (hstep : Yields step fun found => ∀ value ∈ found, holds value)
    (n : Nat) {done : List α} (hdone : ∀ value ∈ done, holds value) :
    Yields (repeatUpTo step n done) fun values =>
      ∀ value ∈ values, holds value := by
  induction n generalizing done with
  | zero => exact yields_fail
  | succ n ih =>
      intro context state values rest hvalues
      simp only [repeatUpTo] at hvalues
      split at hvalues
      · exact absurd hvalues (by simp)
      · obtain ⟨rfl, -⟩ := Prod.mk.inj (Option.some.inj hvalues)
        simpa using hdone
      · rename_i value middle hfound
        refine ih ?_ context middle values rest hvalues
        intro other hother
        rcases List.mem_cons.mp hother with rfl | hother
        · exact hstep context state _ middle hfound other rfl
        · exact hdone other hother

theorem program_yields (n : Nat) :
    Yields (program (Rules.upTo n)) fun statements =>
      ∀ statement ∈ statements, statement.ExportsByGrammar := by
  unfold program
  have hmany : Yields (many do
      if (← token) == .endOfFile then
        return none
      else
        return some (← (Rules.upTo n).statement)) fun statements =>
      ∀ statement ∈ statements, statement.ExportsByGrammar := by
    intro context state
    refine repeatUpTo_yields ?_ context.budget (by simp) context state
    refine yields_bind fun _ => yields_ite ?_ ?_
    · exact yields_pure (by simp)
    · refine yields_bind_of (upTo_statement_yields n) fun statement hstatement => ?_
      exact yields_pure (by simpa using hstatement)
  refine yields_bind_of hmany fun statements hstatements => ?_
  refine yields_bind fun _ => yields_bind fun _ => ?_
  exact yields_pure hstatements

end Parse

/-- In a source file only classes, functions and interfaces are default exports. -/
theorem File.exportsByGrammar {path text : String} {file : File}
    (hparse : File.parse? path text = some file) :
    ∀ statement ∈ file.statements, statement.ExportsByGrammar := by
  obtain ⟨⟨statements, comments⟩, hsource, hfile⟩ :=
    Option.bind_eq_some_iff.mp hparse
  obtain rfl := Option.some.inj hfile
  obtain ⟨⟨all, rest⟩, hprogram, hpair⟩ := Option.bind_eq_some_iff.mp hsource
  obtain ⟨rfl, -⟩ := Prod.mk.inj (Option.some.inj hpair)
  intro statement hstatement
  exact Parse.program_yields _ _ _ _ _ hprogram statement
    ((List.dropWhile_sublist _).subset hstatement)

end ComponentDocs.Source
