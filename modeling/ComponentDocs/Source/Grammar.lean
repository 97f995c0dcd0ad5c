import ComponentDocs.Source.Grammar.Statements

/-!
The grammar as a whole.

The rules call each other through a record, which is tied by a bound on how
deeply they nest. The bound grows with the length of the input, so that it is
never reached by a file that can be read.
-/

namespace ComponentDocs.Source

/-- The rules for constructs that nest at most `n` deep. -/
def Rules.upTo : Nat → Rules
  | 0 =>
      { expression := Parse.fail
        assignment := Parse.fail
        branch := Parse.fail
        unary := Parse.fail
        leftSide := Parse.fail
        type := Parse.fail
        pattern := Parse.fail
        statement := Parse.fail
        element := Parse.fail }
  | n + 1 =>
      { expression := fun context state =>
          Parse.expressionList (upTo n) context state
        assignment := fun context state =>
          Parse.assignmentExpr (upTo n) false context state
        branch := fun context state =>
          Parse.assignmentExpr (upTo n) true context state
        unary := fun context state => Parse.unary (upTo n) context state
        leftSide := fun context state => Parse.leftSide (upTo n) context state
        type := fun context state => Parse.typeExpr (upTo n) context state
        pattern := fun context state => Parse.pattern (upTo n) context state
        statement := fun context state => Parse.statement (upTo n) context state
        element := fun context state => Parse.element (upTo n) context state }

/-- All statements up to the end of the file. -/
def Parse.program (rules : Rules) : Parse (List Stmt) := do
  let statements ← many do
    if (← token) == .endOfFile then
      return none
    else
      return some (← rules.statement)
  require (← state).covers.isEmpty
  return statements

/-- The context at the top of a file. -/
def Context.top (language : Language) (budget : Nat) : Context :=
  { language := language
    noIn := false
    awaiting := language.isModule
    yielding := false
    returning := false
    ambient := language.definition
    outermost := true
    plainTypes := false
    decorating := false
    budget := budget }

/-- The state before the first token of a file. -/
def State.start (text : String) : State :=
  let place := Position.start text
  ⟨place, place.next false true, []⟩

/--
The statements of a source text, without directives, and its block comments in
the order of the text. Nothing, if the text breaks the grammar.
-/
def parse? (language : Language) (text : String) :
    Option (List Stmt × List Comment) := do
  let size := text.toList.length
  let rules := Rules.upTo (16 * (size + 4))
  let (statements, state) ←
    Parse.program rules (Context.top language (size + 2)) (State.start text)
  return (statements.dropWhile Parse.isDirective, state.lexeme.after.comments.reverse)

end ComponentDocs.Source
