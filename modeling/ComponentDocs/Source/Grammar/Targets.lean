import ComponentDocs.Source.Grammar.Patterns

/-!
Expressions as the targets of assignments.

Object and array literals on the left of an assignment are patterns. A
shorthand property then mentions its name once, and may have a default.
-/

namespace ComponentDocs.Source

/-- Whether a value is only the key's name again. -/
def Entry.isShorthand (key : Key) (value : Expr) : Bool :=
  match key, value with
  | .identifier span _, .identifier valueSpan _ => span = valueSpan
  | .identifier span _, .assignment _ _ (.identifier targetSpan _) _ =>
      span = targetSpan
  | _, _ => false

/--
The target that an expression without patterns stands for. Parentheses do not
count.
-/
def Expr.simpleTarget? : Expr → Option Expr
  | .identifier span name => some (.identifier span name)
  | .member span owner property => some (.member span owner property)
  | .element span owner index => some (.element span owner index)
  | .parenthesized _ inner => inner.simpleTarget?
  | .typed span inner types =>
      if inner.simpleTarget?.isSome then some (.typed span inner types) else none
  | .assertion span type inner =>
      if inner.simpleTarget?.isSome then some (.assertion span type inner)
      else none
  | _ => none

mutual

/-- The target that an expression stands for; a literal is a pattern. -/
def Expr.target? : Expr → Option Expr
  | .object span entries => (targetsOfEntries? entries).map (.compound span)
  | .array span items => (targetsOfParts? items).map (.compound span)
  | expr => expr.simpleTarget?

/-- The part of a pattern that an expression stands for, with its default. -/
def Expr.patternPart? : Expr → Option Expr
  | .assignment span operator target value =>
      if operator = "=" then some (.assignment span operator target value)
      else none
  | expr => expr.target?

/-- The parts of an object pattern. -/
def targetsOfEntries? : List Entry → Option (List Part)
  | [] => some []
  | .property key value :: entries => do
      let others ← targetsOfEntries? entries
      if Entry.isShorthand key value then
        return .expr value :: others
      else
        return key.parts ++ .expr (← value.patternPart?) :: others
  | .spread value :: entries => do
      return .expr (← value.target?) :: (← targetsOfEntries? entries)

/-- The parts of an array pattern. -/
def targetsOfParts? : List Part → Option (List Part)
  | [] => some []
  | .expr value :: parts => do
      return .expr (← value.patternPart?) :: (← targetsOfParts? parts)
  | part :: parts => do
      return part :: (← targetsOfParts? parts)

end

namespace Parse

/-- Notes a default that is only right inside a target. -/
def addCover (offset : Nat) : Parse Unit := fun _ state =>
  some ((), { state with covers := offset :: state.covers })

/-- Forgets the defaults inside a target. -/
def clearCovers (span : Span) : Parse Unit := fun _ state =>
  some ((), { state with covers := state.covers.filter fun offset =>
    offset < span.start || span.stop ≤ offset })

/-- An expression as a target; patterns only count where they may stand. -/
def target (patterns : Bool) (expr : Expr) : Parse Expr := do
  let found := if patterns then expr.target? else expr.simpleTarget?
  match found with
  | some target =>
      clearCovers expr.span
      return target
  | none => fail

end Parse

end ComponentDocs.Source
