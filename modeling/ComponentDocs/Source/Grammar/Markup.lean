import ComponentDocs.Source.Grammar.Types

/-!
Markup elements inside expressions.

Between tags every character counts, so text is read again from behind the last
tag. Names of elements refer to something unless they start in lower case or
hold a dash.
-/

namespace ComponentDocs.Source.Parse

variable (rules : Rules)

/-- A name of markup, which may hold dashes. -/
def markupWord : Parse String := do
  match ← token with
  | .word _ false =>
      let chars := (← state).lexeme.chars
      let text := chars.takeWhile (fun c => Text.isIdentifierPart c || c = '-')
      reread (.word (String.ofList text) false) text.length
      advance
      return String.ofList text
  | _ => fail

/-- The name of an element: its text, and what it mentions. -/
def elementName : Parse (String × List Part) := do
  let first ← markupWord
  if ← accept ":" then
    let second ← markupWord
    return (first ++ ":" ++ second, [])
  let others ← many do
    if ← accept "." then
      return some (← markupWord)
    else
      return none
  let isIntrinsic := others.isEmpty &&
    (first.toList.contains '-' || first.toList.head?.any Char.isLower)
  let mentioned := if isIntrinsic || first = "this" then [] else [Part.name first]
  return (String.intercalate "." (first :: others), mentioned)

/-- A quoted value of an attribute, in which nothing is escaped. -/
def attributeText : Parse Unit := do
  match (← state).lexeme.chars with
  | quote :: rest =>
      let text := rest.takeWhile (· != quote)
      require (text.length < rest.length)
      reread (.string "") (text.length + 2)
      advance
  | [] => fail

/-- One attribute, or a spread. -/
def markupAttribute : Parse (List Part) := do
  if ← accept "\x7b" then
    expect "..."
    let value ← bracketed rules.assignment
    expect "\x7d"
    return [.expr value]
  let _ ← markupWord
  if ← accept ":" then
    let _ ← markupWord
  if !(← accept "=") then
    return []
  let quoted := (← state).lexeme.chars.head?.any (fun c => c = '"' || c = '\x27')
  if quoted then
    attributeText
    return []
  else if ← accept "\x7b" then
    let value ← bracketed rules.expression
    expect "\x7d"
    return [.expr value]
  else
    return [.expr (← rules.element)]

/-- Reads text from behind the last tag up to the next brace or tag. -/
def childText : Parse Unit := fun _ state =>
  let start := state.before
  let text := start.chars.takeWhile fun c =>
    !(['<', '>', '\x7b', '\x7d'].contains c)
  let place := start.forward text.length
  match place.chars with
  | '<' :: _ => some ((), { state with
      before := place
      lexeme := ⟨.mark "<", place.offset, false, place.chars, place.forward 1⟩ })
  | '\x7b' :: _ => some ((), { state with
      before := place
      lexeme := ⟨.mark "\x7b", place.offset, false, place.chars, place.forward 1⟩ })
  | _ => none

/-- A child of an element; nothing where the closing tag starts. -/
def child : Parse (Option (List Part)) := do
  childText
  if ← accept "\x7b" then
    if ← accept "..." then
      let value ← bracketed rules.assignment
      expect "\x7d"
      return some [.expr value]
    if ← accept "\x7d" then
      return some []
    let value ← bracketed rules.expression
    expect "\x7d"
    return some [.expr value]
  else if ← followedBy (atMark "/") then
    return none
  else
    return some [.expr (← rules.element)]

/-- The children of an element, and its closing tag. -/
def childrenUpTo (name : String) : Parse (List Part) := do
  let children ← many (child rules)
  expect "<"
  expect "/"
  if name.isEmpty then
    expect ">"
    return children.flatten
  else
    let (closing, mentioned) ← elementName
    require (closing = name)
    expect ">"
    return children.flatten ++ mentioned

/-- An element or a fragment. -/
def element : Parse Expr := do
  let start ← here
  expect "<"
  if ← accept ">" then
    let children ← childrenUpTo rules ""
    return .compound (← spanFrom start) children
  let (name, mentioned) ← elementName
  let arguments ← if ← typed then typeArguments? rules else pure []
  let attributes ← many do
    if ← atAnyMark ["/", ">"] then
      return none
    else
      return some (← markupAttribute rules)
  let front := mentioned ++ arguments.map .type ++ attributes.flatten
  if ← accept "/" then
    expect ">"
    return .compound (← spanFrom start) front
  else
    expect ">"
    let children ← childrenUpTo rules name
    return .compound (← spanFrom start) (front ++ children)

end ComponentDocs.Source.Parse
