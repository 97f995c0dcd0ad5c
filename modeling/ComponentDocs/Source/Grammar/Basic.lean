import ComponentDocs.Source.Language
import ComponentDocs.Source.Tree
import ComponentDocs.Source.Trivia

/-!
Parsers over the tokens of a source file.

A parser looks at one token at a time. Its state also keeps the places before
and behind that token, so that the grammar can read a token again where its
meaning depends on the context. States are values: going back after a failed
attempt is going on with the old state.
-/

namespace ComponentDocs.Source

/-- What the place in the grammar allows. -/
structure Context where
  language : Language
  /-- `in` is no operator here. -/
  noIn : Bool
  /-- `await` is an operator. -/
  awaiting : Bool
  /-- `yield` is an operator. -/
  yielding : Bool
  /-- `return` may stand here. -/
  returning : Bool
  /-- Declarations only describe what exists elsewhere. -/
  ambient : Bool
  /-- Imports and exports may stand here. -/
  outermost : Bool
  /-- Conditional types have to be parenthesized. -/
  plainTypes : Bool
  /-- Brackets belong to the member that follows a decorator. -/
  decorating : Bool
  /-- A bound on the items of any list. -/
  budget : Nat

/-- Where the parser is. -/
structure State where
  /-- The place behind the previous token. -/
  before : Position
  lexeme : Lexeme
  /-- Shorthand defaults that are only right in an assignment's target. -/
  covers : List Nat

/-- Whether a comment behind this token is not a trailing one. -/
def Token.opens : Token → Bool
  | .mark text => text = "=" || text = "("
  | _ => false

/-- Words that are never identifiers. -/
def reserved : List String :=
  ["break", "case", "catch", "class", "const", "continue", "debugger",
    "default", "delete", "do", "else", "enum", "export", "extends", "false",
    "finally", "for", "function", "if", "import", "in", "instanceof", "new",
    "null", "return", "super", "switch", "this", "throw", "true", "try",
    "typeof", "var", "void", "while", "with"]

/-- The identifier that a token is in a context. -/
def Token.identifier? (context : Context) :
    Token → Option String
  | .word text _ =>
      if reserved.contains text || (text = "await" && context.awaiting) ||
          (text = "yield" && context.yielding) then
        none
      else
        some text
  | _ => none

/-- A parser reads from a state, or fails. -/
def Parse (α : Type) : Type := Context → State → Option (α × State)

instance : Monad Parse where
  pure value := fun _ state => some (value, state)
  bind parse next := fun context state =>
    match parse context state with
    | some (value, state) => next value context state
    | none => none

namespace Parse

variable {α β : Type}

/-- No input fits. -/
def fail : Parse α := fun _ _ => none

/-- Goes on only if a condition holds. -/
def require (condition : Bool) : Parse Unit :=
  if condition then pure () else fail

/-- The context at hand. -/
def context : Parse Context := fun context state => some (context, state)

/-- The state at hand. -/
def state : Parse State := fun _ state => some (state, state)

/-- Runs a parser where the grammar allows something else. -/
def within (change : Context → Context) (parse : Parse α) : Parse α :=
  fun context state => parse (change context) state

/-- Runs a parser; if it fails, nothing has been read. -/
def attempt (parse : Parse α) : Parse (Option α) := fun context state =>
  match parse context state with
  | some (value, state) => some (some value, state)
  | none => some (none, state)

/-- Runs a parser without reading anything. -/
def ahead (parse : Parse α) : Parse (Option α) := fun context state =>
  some ((parse context state).map Prod.fst, state)

/-- The first parser that succeeds. -/
def either (first second : Parse α) : Parse α := fun context state =>
  match first context state with
  | some result => some result
  | none => second context state

/-- Runs a parser until it answers nothing, at most `n` times. -/
def repeatUpTo (step : Parse (Option α)) : Nat → List α → Parse (List α)
  | 0, _ => fail
  | n + 1, done => fun context state =>
      match step context state with
      | none => none
      | some (none, state) => some (done.reverse, state)
      | some (some value, state) =>
          repeatUpTo step n (value :: done) context state

/-- The answers of a parser until it answers nothing. -/
def many (step : Parse (Option α)) : Parse (List α) := fun context state =>
  repeatUpTo step context.budget [] context state

/-- Lets a value grow until a step answers nothing, at most `n` times. -/
def growUpTo (step : α → Parse (Option α)) : Nat → α → Parse α
  | 0, _ => fail
  | n + 1, value => fun context state =>
      match step value context state with
      | none => none
      | some (none, state) => some (value, state)
      | some (some value, state) => growUpTo step n value context state

/-- Lets a value grow by a step until the step answers nothing. -/
def grow (step : α → Parse (Option α)) (value : α) : Parse α :=
  fun context state => growUpTo step context.budget value context state

/-! ### The current token -/

/-- The current token. -/
def token : Parse Token := do return (← state).lexeme.token

/-- The offset of the current token. -/
def here : Parse Nat := do return (← state).lexeme.start

/-- The offset behind the previous token. -/
def lastEnd : Parse Nat := do return (← state).before.offset

/-- Whether the current token starts a line. -/
def newlineBefore : Parse Bool := do return (← state).lexeme.newline

/-- The stretch from an offset to the end of the previous token. -/
def spanFrom (start : Nat) : Parse Span := do return ⟨start, ← lastEnd⟩

/-- Moves to the next token. Nothing follows a broken one. -/
def advance : Parse Unit := fun _ state =>
  match state.lexeme.token with
  | .bad => none
  | token =>
      let after := state.lexeme.after
      some ((), { state with
        before := after
        lexeme := after.next token.opens false })

/-- Reads the place of the current token as another token. -/
def reread (token : Token) (size : Nat) : Parse Unit := fun _ state =>
  let lexeme := state.lexeme
  let place : Position := ⟨lexeme.chars, lexeme.start, lexeme.after.comments⟩
  some ((), { state with
    lexeme := { lexeme with token := token, after := place.forward size } })

/-- Whether the current token is a mark. -/
def atMark (text : String) : Parse Bool := do
  return (← token) == .mark text

/-- Whether the current token is a keyword, which has no escapes. -/
def atWord (text : String) : Parse Bool := do
  return (← token) == .word text false

/-- Whether the current token is one of some keywords. -/
def atAnyWord (texts : List String) : Parse Bool := do
  match ← token with
  | .word text false => return texts.contains text
  | _ => return false

/-- Whether the current token is one of some marks. -/
def atAnyMark (texts : List String) : Parse Bool := do
  match ← token with
  | .mark text => return texts.contains text
  | _ => return false

/-- Reads a mark if it is there. -/
def accept (text : String) : Parse Bool := do
  if ← atMark text then
    advance
    return true
  else
    return false

/-- Reads a keyword if it is there. -/
def acceptWord (text : String) : Parse Bool := do
  if ← atWord text then
    advance
    return true
  else
    return false

/-- Reads a mark that must be there. -/
def expect (text : String) : Parse Unit := do
  require (← accept text)

/-- Reads a word that must be there. -/
def expectWord (text : String) : Parse Unit := do
  require (← acceptWord text)

/-- The token behind the current one, and whether it starts a line. -/
def following : Parse (Token × Bool) := do
  let next ← ahead do
    advance
    return (← token, ← newlineBefore)
  return next.getD (.bad, false)

/-- Whether a condition holds of what follows the current token. -/
def followedBy (condition : Parse Bool) : Parse Bool := do
  let answer ← ahead do
    advance
    condition
  return answer.getD false

/-- A statement's end: a semicolon, a closing brace, a new line or the end. -/
def semicolon : Parse Unit := do
  if ← accept ";" then
    return ()
  let ended ← match ← token with
    | .endOfFile => pure true
    | .mark "\x7d" => pure true
    | _ => newlineBefore
  require ended

/-- Items between commas up to a closing mark; a comma may stand at the end. -/
def commaList (close : String) (item : Parse α) : Parse (List α) := do
  let items ← many do
    if ← atMark close then
      return none
    let value ← item
    unless ← accept "," do
      require (← atMark close)
    return some value
  expect close
  return items

/-! ### Words -/

/-- Whether the current token is an identifier. -/
def atIdentifier : Parse Bool := do
  return ((← token).identifier? (← context)).isSome

/-- An identifier with its place. -/
def identifier : Parse (Span × String) := do
  match (← token).identifier? (← context) with
  | some name =>
      let start ← here
      advance
      return (← spanFrom start, name)
  | none => fail

/-- A name that may also be a keyword. -/
def anyName : Parse (Span × String) := do
  match ← token with
  | .word name _ =>
      let start ← here
      advance
      return (← spanFrom start, name)
  | _ => fail

/-- Whether types may be written. -/
def typed : Parse Bool := do return (← context).language.typed

/-! ### Templates -/

/-- Reads the closing brace of a substitution as template text. -/
def resumeTemplate : Parse Unit := do
  require (← atMark "\x7d")
  let (token, size) := readTemplate ((← state).lexeme.chars.drop 1)
  reread token size

/-- A stretch of template text, and whether the template goes on behind it. -/
def templateText (strict : Bool) : Parse (Option String × Bool) := do
  match ← token with
  | .template text closed =>
      require (text.isSome || !strict)
      advance
      return (text, !closed)
  | _ => fail

/--
A template whose substitutions are read by `inner`. The answer is the text of a
template without any, and the substitutions. Where `strict`, escapes have to be
right.
-/
def template (strict : Bool) (inner : Parse Part) :
    Parse (Option String × List Part) := do
  let (text, isOpen) ← templateText strict
  if !isOpen then
    return (text, [])
  let (parts, _) ← ([], true) |> grow fun (parts, isOpen) => do
    if !isOpen then
      return none
    let part ← inner
    resumeTemplate
    let (_, isOpen) ← templateText strict
    return some (parts ++ [part], isOpen)
  return (none, parts)

end Parse

/-- The parsers that the rules of the grammar call for nested constructs. -/
structure Rules where
  /-- Expressions with commas between them. -/
  expression : Parse Expr
  /-- An expression without a comma. -/
  assignment : Parse Expr
  /-- The middle of a conditional expression. -/
  branch : Parse Expr
  unary : Parse Expr
  /-- An expression that may stand left of an assignment. -/
  leftSide : Parse Expr
  type : Parse TypeExpr
  pattern : Parse Pattern
  statement : Parse Stmt
  /-- A markup element. -/
  element : Parse Expr

end ComponentDocs.Source
