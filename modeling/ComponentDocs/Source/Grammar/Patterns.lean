import ComponentDocs.Source.Grammar.Types

/-!
Patterns, functions and classes.
-/

namespace ComponentDocs.Source

/-- The parts of a pattern that stands inside another node. -/
def Pattern.parts : Pattern → List Part
  | .identifier .. => []
  | .destructuring _ parts => parts

namespace Parse

variable (rules : Rules)

/-! ### Binding patterns -/

/-- A default after an equals sign, if there is one. -/
def default? : Parse (Option Expr) := do
  if ← accept "=" then
    return some (← bracketed rules.assignment)
  else
    return none

/-- A pattern with its default, as parts. -/
def patternParts : Parse (List Part) := do
  let pattern ← rules.pattern
  let default ← default? rules
  return pattern.parts ++ default.toList.map .expr

/-- One property of an object pattern. -/
def patternProperty : Parse (List Part) := do
  if ← accept "..." then
    let pattern ← rules.pattern
    require (← atMark "\x7d")
    return pattern.parts
  let short ← if ← atIdentifier then
      followedBy do return !(← atMark ":")
    else
      pure false
  if short then
    let (_, name) ← identifier
    let default ← default? rules
    return .name name :: default.toList.map .expr
  else
    let key ← key rules
    expect ":"
    return key.parts ++ (← patternParts rules)

/-- The elements of an array pattern, up to its closing bracket. -/
def patternElements : Parse (List Part) := do
  let elements ← many do
    if ← atMark "]" then
      return none
    if ← accept "," then
      return some []
    if ← accept "..." then
      let pattern ← rules.pattern
      require (← atMark "]")
      return some pattern.parts
    let parts ← patternParts rules
    unless ← atMark "]" do
      expect ","
    return some parts
  expect "]"
  return elements.flatten

/-- What a name may be bound by. -/
def pattern : Parse Pattern := do
  let start ← here
  if ← accept "\x7b" then
    let properties ← bracketed (commaList "\x7d" (patternProperty rules))
    return .destructuring (← spanFrom start) properties.flatten
  else if ← accept "[" then
    let parts ← bracketed (patternElements rules)
    return .destructuring (← spanFrom start) parts
  else
    let (span, name) ← identifier
    return .identifier span name

/-! ### Functions -/

/-- Whether a statement is a directive, if it stands at the front of a body. -/
def isDirective : Stmt → Bool
  | .expression _ (.string ..) => true
  | _ => false

/-- Statements in braces. -/
def block : Parse (List Stmt) := do
  expect "\x7b"
  let statements ← (many do
    if ← atMark "\x7d" then
      return none
    else
      return some (← rules.statement)).within fun context =>
        { context with outermost := false, noIn := false, decorating := false }
  expect "\x7d"
  return statements

/-- The statements of a function, without its directives. -/
def functionBlock : Parse (List Stmt) := do
  return (← block rules).dropWhile isDirective

/-- Goes inside a function. -/
def inFunction {α : Type} (isAsync isGenerator : Bool) (parse : Parse α) : Parse α :=
  parse.within fun context =>
    { context with
      awaiting := isAsync
      yielding := isGenerator
      returning := true
      noIn := false
      outermost := false
      decorating := false }

/--
A function from its type parameters on. Where `bodiless`, a typed source may
leave out the body.
-/
def functionRest (name : Option String) (isAsync isGenerator bodiless : Bool) :
    Parse Function :=
  inFunction isAsync isGenerator do
    let generics ← typeParameters? rules
    let parameters ← parameters rules
    let result ← resultType? rules
    let bodiless := bodiless && (← typed) && !(← atMark "\x7b")
    let body ← if bodiless then do
        semicolon
        pure Body.absent
      else
        Body.block <$> functionBlock rules
    return {
      name := name
      head := generics ++ parameters.head
      params := parameters.params
      rest := parameters.rest
      result := result
      body := body }

/-- A function from its `async` or `function` on; it may lack a name. -/
def functionFromKeyword (bodiless : Bool) : Parse Function := do
  let isAsync ← acceptWord "async"
  expectWord "function"
  let isGenerator ← accept "*"
  let name ← if ← atIdentifier then
      some <$> identifier
    else
      pure none
  functionRest rules (name.map Prod.snd) isAsync isGenerator bodiless

/-! ### Classes -/

/-- Modifiers of a class member. -/
def memberModifiers : Parse (List String) := do
  let words := if ← typed then
      ["public", "private", "protected", "static", "abstract", "override",
        "readonly", "declare", "async", "accessor"]
    else
      ["static", "async", "accessor"]
  many do
    match ← token with
    | .word text false =>
        let modifies ← if !words.contains text then
            pure false
          else if text = "static" then
            followedBy canFollowModifier
          else
            isModifier
        if modifies then
          advance
          return some text
        else
          return none
    | _ => return none

/-- A method from its parameters on, with what stands in front of it. -/
def methodRest (front : List Part) (isAsync isGenerator : Bool) :
    Parse ClassMember := do
  let start ← here
  let value ← functionRest rules none isAsync isGenerator true
  return .other (front ++ [.expr (.function (← spanFrom start) value)])

/-- A field from its annotation on. -/
def fieldRest (modifiers : List String) (decorators : List Part) (key : Key) :
    Parse ClassMember := do
  let declaredType ← declaredType? rules
  let value ← (default? rules).within fun context =>
    { context with returning := false, yielding := false, outermost := false }
  semicolon
  if modifiers.contains "accessor" then
    return .other (decorators ++ key.parts ++ typePart declaredType ++
      value.toList.map .expr)
  else
    return .field (modifiers.contains "static") decorators key declaredType value

/-- A class member after its decorators. -/
def memberRest (decorators : List Part) : Parse ClassMember := do
  let modifiers ← memberModifiers
  let isAsync := modifiers.contains "async"
  if ← opensAccessor then
    advance
    let key ← key rules
    methodRest rules (decorators ++ key.parts) false false
  else if ← accept "*" then
    let key ← key rules
    methodRest rules (decorators ++ key.parts) isAsync true
  else if (← typed) && (← opensIndexSignature) then
    let parts ← indexSignature rules
    signatureEnd
    return .other (decorators ++ parts)
  else
    let key ← key rules
    if ← typed then
      unless ← accept "?" do
        let _ ← accept "!"
    if ← atAnyMark ["(", "<"] then
      methodRest rules (decorators ++ key.parts) isAsync false
    else
      fieldRest rules modifiers decorators key

/-- A member of a class. -/
def classMember : Parse ClassMember := do
  let decorators ← decorators rules
  let isStaticBlock ← if ← atWord "static" then
      followedBy (atMark "\x7b")
    else
      pure false
  if isStaticBlock then
    advance
    let statements ← (block rules).within fun context =>
      { context with returning := false, awaiting := false, yielding := false }
    return .other (statements.map .stmt)
  else
    memberRest rules decorators

/-- The base class of a class, and its type arguments. -/
def superClass? : Parse (Option Expr × List TypeExpr) := do
  if ← acceptWord "extends" then
    match ← rules.leftSide with
    | .instantiation _ inner arguments => return (some inner, arguments)
    | value =>
        let arguments ← if ← typed then typeArguments? rules else pure []
        return (some value, arguments)
  else
    return (none, [])

/-- The types that a class implements. -/
def implemented : Parse (List Part) := do
  if (← typed) && (← acceptWord "implements") then
    let first ← typeReference rules
    let others ← many do
      if ← accept "," then
        return some (Part.type (← typeReference rules))
      else
        return none
    return .type first :: others
  else
    return []

/-- A class from its keyword on; its span starts at `start`. -/
def classFrom (start : Nat) (decorators : List Part) : Parse ClassNode := do
  expectWord "class"
  let unnamed ← if ← atWord "implements" then
      followedBy atIdentifier
    else
      pure false
  let name ← if !unnamed && (← atIdentifier) then
      some <$> identifier
    else
      pure none
  let generics ← typeParameters? rules
  let (superClass, superArguments) ← superClass? rules
  let implemented ← implemented rules
  expect "\x7b"
  let members ← bracketed (many do
    if ← atMark "\x7d" then
      return none
    if ← accept ";" then
      return some []
    return some [← classMember rules])
  expect "\x7d"
  return {
    span := ← spanFrom start
    decorators := decorators
    name := name.map Prod.snd
    generics := generics
    superClass := superClass
    superArguments := superArguments
    implemented := implemented
    members := members.flatten }

end Parse

end ComponentDocs.Source
