import ComponentDocs.RawDocument
import ComponentDocs.Source.Tree
import ComponentDocs.Text.Blank

/-!
Default values as they are written.

Nothing is evaluated. A literal or an identifier stands for its own text, a
function with a block for the statements in it, and any other expression for
its source text. The text `undefined` means that there is no default.
-/

namespace ComponentDocs

open Source

/-- The text that a literal or an identifier carries. -/
def Source.Expr.literalText? : Expr → Option String
  | .string _ value => some value
  | .number _ raw _ => some raw
  | .template _ text => text
  | .identifier _ name => some name
  | _ => none

/-- The statements of a function that has a block. -/
def Source.Expr.blockStatements? : Expr → Option (List Stmt)
  | .function _ value =>
      match value.body with
      | .block statements => some statements
      | _ => none
  | _ => none

/-- The source from the first statement to the end of the last one. -/
def statementsText (source : String) (statements : List Stmt) : Option String :=
  match statements.head?, statements.getLast? with
  | some first, some last =>
      Text.slice source ⟨first.span.start, last.span.stop⟩
  | _, _ => some ""

/-- The text of a default value, unless it lies outside the source. -/
def valueText (source : String) (value : Expr) : Option String :=
  let found := match value.literalText? with
    | some text => some text
    | none =>
        match value.blockStatements? with
        | some statements => statementsText source statements
        | none => Text.slice source value.span
  found.map Text.trimmed

/-- What becomes of one entry of a defaults object. -/
inductive EntryOutcome where
  | kept (name value : String)
  /-- The value is `undefined`. -/
  | discarded (name : String)
  /-- The entry cannot be read; the name is given if it is known. -/
  | refused (name : Option String) (reason : String)
deriving Repr, DecidableEq

/-- Reads one entry of a defaults object. -/
def EntryOutcome.of (source : String) : Entry → EntryOutcome
  | .spread _ => .refused none "spread entries are not expanded"
  | .property key value =>
      match key.plainName? with
      | none => .refused none "computed keys are not supported"
      | some name =>
          match valueText source value with
          | none =>
              .refused (some name) "initializer span is outside the source text"
          | some text =>
              if text = "undefined" then .discarded name else .kept name text

/-- The default values of one object, and what was left out. -/
structure Defaults where
  values : OrderedMap String String
  /-- Names whose default is `undefined`. -/
  discarded : List String
  diagnostics : List Diagnostic
deriving Repr, DecidableEq

namespace Defaults

/-- Collects the outcomes of entries. -/
def ofOutcomes (owner : String) (outcomes : List EntryOutcome) : Defaults where
  values := OrderedMap.ofList (outcomes.filterMap fun
    | .kept name value => some (name, value)
    | _ => none)
  discarded := outcomes.filterMap fun
    | .discarded name => some name
    | _ => none
  diagnostics := outcomes.filterMap fun
    | .refused name reason => some (.malformedDefaults owner name reason)
    | _ => none

/-- The default values that an initializer gives to its owner. -/
def read (source owner : String) (initializer : Expr) : Defaults :=
  match initializer.core with
  | .object _ entries => ofOutcomes owner (entries.map (EntryOutcome.of source))
  | _ =>
      ofOutcomes owner [.refused none "initializer is not an object literal"]

end Defaults

end ComponentDocs
