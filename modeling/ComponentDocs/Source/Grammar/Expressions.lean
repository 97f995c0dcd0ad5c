import ComponentDocs.Source.Grammar.Markup
import ComponentDocs.Source.Grammar.Targets

/-!
Expressions.

Operators are read by precedence. Arrow functions and type arguments look like
other expressions at first, so they are tried and given up if they do not work
out.
-/

namespace ComponentDocs.Source.Parse

variable (rules : Rules)

/-! ### Lists of expressions -/

/-- An expression, or a spread of one. -/
def spreadable : Parse Part := do
  let _ ← accept "..."
  return .expr (← rules.assignment)

/-- Arguments in parentheses. -/
def callArguments : Parse (List Part) := do
  expect "("
  bracketed (commaList ")" (spreadable rules))

/-- An array literal. -/
def arrayLiteral : Parse Expr := do
  let start ← here
  expect "["
  let items ← bracketed (many do
    if ← atMark "]" then
      return none
    if ← accept "," then
      return some []
    let item ← spreadable rules
    unless ← atMark "]" do
      expect ","
    return some [item])
  expect "]"
  return .array (← spanFrom start) items.flatten

/-! ### Object literals -/

/-- A method of an object, after its modifiers. -/
def objectMethod (isAsync isGenerator : Bool) : Parse Entry := do
  let key ← key rules
  let start ← here
  let value ← functionRest rules none isAsync isGenerator false
  return .property key (.function (← spanFrom start) value)

/-- A property whose value is the variable of its name. -/
def shorthand : Parse Entry := do
  let (span, name) ← identifier
  let value := Expr.identifier span name
  let offset ← here
  if ← accept "=" then
    let default ← rules.assignment
    addCover offset
    return .property (.identifier span name)
      (.assignment (← spanFrom span.start) "=" value default)
  else
    return .property (.identifier span name) value

/-- One entry of an object literal. -/
def objectEntry : Parse Entry := do
  if ← accept "..." then
    return .spread (← rules.assignment)
  if ← accept "*" then
    return ← objectMethod rules false true
  if (← atWord "async") && (← isModifier) then
    advance
    let isGenerator ← accept "*"
    return ← objectMethod rules true isGenerator
  if ← opensAccessor then
    advance
    return ← objectMethod rules false false
  let short ← if ← atIdentifier then
      followedBy (atAnyMark [",", "\x7d", "="])
    else
      pure false
  if short then
    return ← shorthand rules
  let named ← ahead do
    let _ ← key rules
    atAnyMark ["(", "<"]
  if named.getD false then
    objectMethod rules false false
  else
    let key ← key rules
    match key with
    | .privateName _ => fail
    | _ =>
        expect ":"
        return .property key (← rules.assignment)

/-- An object literal. -/
def objectLiteral : Parse Expr := do
  let start ← here
  expect "\x7b"
  let entries ← bracketed (commaList "\x7d" (objectEntry rules))
  return .object (← spanFrom start) entries

/-! ### Primary expressions -/

/-- A regular expression, from its slash on. -/
def regularExpression : Parse Expr := do
  let start ← here
  let chars := (← state).lexeme.chars
  match patternSize (chars.drop 1) with
  | some size =>
      reread (.mark "/") (size + 1)
      advance
      return .literal (← spanFrom start) (String.ofList (chars.take (size + 1)))
  | none => fail

/-- A class expression with its decorators. -/
def classExpression : Parse Expr := do
  let start ← here
  let decorators ← decorators rules
  return .classExpr (← classFrom rules start decorators)

/-- Whether `async` starts a function here. -/
def atAsyncFunction : Parse Bool := do
  if ← atWord "async" then
    followedBy do return (← atWord "function") && !(← newlineBefore)
  else
    return false

/-- The expression that a word starts. -/
def wordExpression (text : String) : Parse Expr := do
  let start ← here
  match text with
  | "this" | "true" | "false" =>
      advance
      return .compound (← spanFrom start) []
  | "null" =>
      advance
      return .literal (← spanFrom start) "null"
  | "class" => classExpression rules
  | "function" =>
      let value ← functionFromKeyword rules false
      return .function (← spanFrom start) value
  | _ =>
      if ← atAsyncFunction then
        let value ← functionFromKeyword rules false
        return .function (← spanFrom start) value
      else
        let (span, name) ← identifier
        return .identifier span name

/-- An expression without operators. -/
def primary : Parse Expr := do
  let start ← here
  match ← token with
  | .word text false => wordExpression rules text
  | .word _ true =>
      let (span, name) ← identifier
      return .identifier span name
  | .string value =>
      advance
      return .string (← spanFrom start) value
  | .number raw name =>
      advance
      return .number (← spanFrom start) raw name
  | .bigint digits =>
      advance
      return .literal (← spanFrom start) digits
  | .template .. =>
      let (text, parts) ← template true (.expr <$> bracketed rules.expression)
      if parts.isEmpty then
        return .template (← spanFrom start) text
      else
        return .compound (← spanFrom start) parts
  | .mark "[" => arrayLiteral rules
  | .mark "\x7b" => objectLiteral rules
  | .mark "(" =>
      advance
      let inner ← bracketed rules.expression
      expect ")"
      return .parenthesized (← spanFrom start) inner
  | .mark "/" | .mark "/=" => regularExpression
  | .mark "@" => classExpression rules
  | _ => fail

/-! ### Operators -/

/-- How tightly a binary operator binds. -/
def precedence? (operator : String) : Option Nat :=
  match operator with
  | "??" => some 1
  | "||" => some 2
  | "&&" => some 3
  | "|" => some 4
  | "^" => some 5
  | "&" => some 6
  | "==" | "!=" | "===" | "!==" => some 7
  | "<" | ">" | "<=" | ">=" | "instanceof" | "in" | "as" | "satisfies" => some 8
  | "<<" | ">>" | ">>>" => some 9
  | "+" | "-" => some 10
  | "*" | "/" | "%" => some 11
  | "**" => some 12
  | _ => none

/-- Reads `>` together with what follows it as one operator. -/
def widenGreater : Parse Unit := do
  if ← atMark ">" then
    let chars := (← state).lexeme.chars
    let marks := [">>>=", ">>>", ">>=", ">>", ">="]
    match marks.find? (fun mark => mark.toList.isPrefixOf chars) with
    | some mark => reread (.mark mark) mark.length
    | none => return ()

/-- The binary operator at hand. -/
def binaryOperator? : Parse (Option (String × Nat)) := do
  let known (text : String) := (precedence? text).map (text, ·)
  match ← token with
  | .mark text => return known text
  | .word "in" false => return if (← context).noIn then none else known "in"
  | .word "instanceof" false => return known "instanceof"
  | .word text false =>
      let isCast := text = "as" || text = "satisfies"
      if isCast && (← typed) && !(← newlineBefore) then
        return known text
      else
        return none
  | _ => return none

/-- Keywords that start an expression. -/
def startingWords : List String :=
  ["this", "super", "null", "true", "false", "function", "class", "new",
    "delete", "typeof", "void", "import", "await", "yield"]

/-- Marks that start an expression. -/
def startingMarks : List String :=
  ["(", "[", "\x7b", "/", "/=", "+", "-", "~", "!", "++", "--", "<", "@"]

/-- Whether an expression may start with the token at hand. -/
def atExpression : Parse Bool := do
  match ← token with
  | .word text _ => return startingWords.contains text || (← atIdentifier)
  | .mark text => return startingMarks.contains text
  | .endOfFile | .bad => return false
  | _ => return true

/-- Whether what was read in angle brackets can be type arguments. -/
def canFollowTypeArguments : Parse Bool := do
  let adjacent := (← here) = (← lastEnd)
  match ← token with
  | .template .. => return true
  | .mark "(" => return true
  | .mark text =>
      if ["<", ">", "+", "-"].contains text then
        return false
      else if adjacent && text.toList.head? = some '=' then
        return false
      else
        return (← newlineBefore) || (precedence? text).isSome || !(← atExpression)
  | _ =>
      return (← newlineBefore) || (← binaryOperator?).isSome || !(← atExpression)

/-- Type arguments inside an expression, if what follows allows them. -/
def trialTypeArguments : Parse (Option (List TypeExpr)) := do
  if (← typed) && (← atAnyMark ["<", "<<"]) then
    attempt do
      let arguments ← typeArguments rules
      require (← canFollowTypeArguments)
      return arguments
  else
    return none

/-- An expression with suffixes, and whether one of them is optional. -/
structure Chain where
  expr : Expr
  optional : Bool

/-- A member after a dot. -/
def memberOf (start : Nat) (owner : Expr) : Parse Expr := do
  match ← token with
  | .word name _ =>
      advance
      return .member (← spanFrom start) owner name
  | .privateName _ =>
      advance
      return .element (← spanFrom start) owner []
  | _ => fail

/-- An element in brackets. -/
def elementOf (start : Nat) (owner : Expr) : Parse Expr := do
  expect "["
  let index ← bracketed rules.expression
  expect "]"
  return .element (← spanFrom start) owner [.expr index]

/-- A call, from its parenthesis on. -/
def callOf (start : Nat) (front : List Part) : Parse Expr := do
  let arguments ← callArguments rules
  return .compound (← spanFrom start) (front ++ arguments)

/-- What follows `?.` -/
def optionalSuffix (start : Nat) (owner : Expr) : Parse Expr := do
  match ← token with
  | .mark "(" => callOf rules start [.expr owner]
  | .mark "[" => elementOf rules start owner
  | .mark "<" | .mark "<<" =>
      require (← typed)
      let arguments ← typeArguments rules
      callOf rules start (.expr owner :: arguments.map .type)
  | _ => memberOf start owner

/-- One suffix of an expression; calls only where they may stand. -/
def suffix (calls : Bool) (start : Nat) (chain : Chain) : Parse (Option Chain) := do
  let owner := chain.expr
  match ← token with
  | .mark "." =>
      match owner with
      | .instantiation .. => fail
      | _ =>
          advance
          return some { chain with expr := ← memberOf start owner }
  | .mark "?." =>
      if calls then
        advance
        return some ⟨← optionalSuffix rules start owner, true⟩
      else
        fail
  | .mark "!" =>
      if (← typed) && !(← newlineBefore) then
        advance
        return some { chain with expr := .typed (← spanFrom start) owner [] }
      else
        return none
  | .mark "[" =>
      if (← context).decorating then
        return none
      else
        return some { chain with expr := ← elementOf rules start owner }
  | .template .. =>
      require !chain.optional
      let (_, parts) ← template false (.expr <$> bracketed rules.expression)
      return some { chain with
        expr := .compound (← spanFrom start) (.expr owner :: parts) }
  | .mark "(" =>
      if calls then
        return some { chain with expr := ← callOf rules start [.expr owner] }
      else
        return none
  | _ =>
      match ← trialTypeArguments rules with
      | some arguments =>
          return some { chain with
            expr := .instantiation (← spanFrom start) owner arguments }
      | none => return none

/-- An expression with all its suffixes. -/
def withSuffixes (calls : Bool) (start : Nat) (base : Expr) : Parse Expr := do
  let chain ← grow (suffix rules calls start) ⟨base, false⟩
  if chain.optional then
    return .compound (← spanFrom start) [.expr chain.expr]
  else
    return chain.expr

/-- A construction with `new`, nested at most `n` times. -/
def newExpression : Nat → Parse Expr
  | 0 => fail
  | n + 1 => do
      let start ← here
      expectWord "new"
      if ← accept "." then
        expectWord "target"
        return .compound (← spanFrom start) [.name "new", .name "target"]
      let calleeStart ← here
      let base ← if ← atWord "new" then newExpression n else primary rules
      let callee ← withSuffixes rules false calleeStart base
      if ← atMark "(" then
        callOf rules start [.expr callee]
      else
        return .compound (← spanFrom start) [.expr callee]

/-- An import that is an expression. -/
def importExpression : Parse Expr := do
  let start ← here
  expectWord "import"
  if ← accept "." then
    expectWord "meta"
    return .compound (← spanFrom start) [.name "import", .name "meta"]
  else
    require !(← followedBy (atMark ")"))
    callOf rules start []

/-- An expression that may stand left of an assignment. -/
def leftSide : Parse Expr := do
  let start ← here
  let base ← match ← token with
    | .word "new" false => newExpression rules (← context).budget
    | .word "import" false => importExpression rules
    | .word "super" false => do
        advance
        require (← atAnyMark ["(", ".", "["])
        pure (.compound (← spanFrom start) [])
    | _ => primary rules
  withSuffixes rules true start base

/-- An expression with `++` or `--` behind it, or without. -/
def update : Parse Expr := do
  let start ← here
  let value ← leftSide rules
  if (← atAnyMark ["++", "--"]) && !(← newlineBefore) then
    let value ← target false value
    advance
    return .compound (← spanFrom start) [.expr value]
  else
    return value

/-- An operand behind a unary operator. -/
def unaryOperand (start : Nat) : Parse Expr := do
  advance
  let value ← rules.unary
  require !(← atMark "**")
  return .compound (← spanFrom start) [.expr value]

/-- A type assertion in angle brackets. -/
def assertion (start : Nat) : Parse Expr := do
  expect "<"
  let type ← fullType rules
  expect ">"
  let value ← rules.unary
  return .assertion (← spanFrom start) type value

/-- An expression with the operators in front of it. -/
def unary : Parse Expr := do
  let start ← here
  match ← token with
  | .mark "+" | .mark "-" | .mark "~" | .mark "!" => unaryOperand rules start
  | .word "typeof" false | .word "void" false | .word "delete" false =>
      unaryOperand rules start
  | .word "await" false =>
      if (← context).awaiting then
        advance
        let value ← rules.unary
        return .compound (← spanFrom start) [.expr value]
      else
        update rules
  | .mark "++" | .mark "--" =>
      advance
      let value ← target false (← rules.unary)
      return .compound (← spanFrom start) [.expr value]
  | .mark "<" =>
      let language := (← context).language
      if language.markup then rules.element
      else if language.typed then assertion rules start
      else fail
  | .privateName _ =>
      advance
      require (← atWord "in")
      return .compound (← spanFrom start) []
  | _ => update rules

/-- The kind of a binary expression, for the rule on mixing. -/
inductive Joint where
  | plain
  /-- `||` or `&&` -/
  | logical
  /-- `??` -/
  | coalescing
deriving DecidableEq

/-- The kind of expression that an operator makes. -/
def Joint.of (operator : String) : Joint :=
  if operator = "??" then .coalescing
  else if operator = "||" || operator = "&&" then .logical
  else .plain

/-- `??` may not stand beside `||` or `&&` without parentheses. -/
def Joint.clash : Joint → Joint → Bool
  | .logical, .coalescing => true
  | .coalescing, .logical => true
  | _, _ => false

/-- Binary operators that bind at least as tightly as `least`. -/
def binary : Nat → Nat → Parse (Expr × Joint)
  | 0, _ => fail
  | n + 1, least => do
      let start ← here
      let first ← unary rules
      (first, .plain) |> grow fun (left, joint) => do
        widenGreater
        match ← binaryOperator? with
        | none => return none
        | some (operator, strength) =>
            if strength < least then
              return none
            advance
            if operator = "as" || operator = "satisfies" then
              let type ← fullType rules
              return some (.typed (← spanFrom start) left [type], .plain)
            let next := if operator = "**" then strength else strength + 1
            let (right, rightJoint) ← binary n next
            let made := Joint.of operator
            require (!made.clash joint && !made.clash rightJoint)
            return some (.compound (← spanFrom start) [.expr left, .expr right], made)

/-! ### Arrow functions -/

/-- Whether `<` opens the type parameters of an arrow function. -/
def opensGenericArrow : Parse Bool := do
  if !(← typed) then
    return false
  if !(← context).language.markup then
    return true
  followedBy do
    let _ ← acceptWord "const"
    if !(← atIdentifier) then
      return false
    advance
    if ← acceptWord "extends" then
      return !(← atAnyMark ["=", ">", "/"])
    else
      atAnyMark [",", "="]

/-- Whether an arrow function may start here. -/
def mayBeArrow : Parse Bool := do
  match ← token with
  | .mark "(" => return true
  | .mark "<" => opensGenericArrow
  | .word "async" false =>
      followedBy do
        return (← atMark "=>") || (!(← newlineBefore) &&
          ((← atAnyMark ["(", "<"]) || (← atIdentifier)))
  | _ =>
      if ← atIdentifier then followedBy (atMark "=>") else return false

/-- A single parameter without parentheses. -/
def bareParameter : Parse Parameters := do
  let (span, name) ← identifier
  return ⟨[], [⟨[], .identifier span name, none, none⟩], none⟩

/-- The body of an arrow function. -/
def arrowBody (isAsync : Bool) (value : Parse Expr) : Parse Body := do
  if ← atMark "\x7b" then
    inFunction isAsync false (Body.block <$> functionBlock rules)
  else
    Body.expression <$> value.within fun context =>
      { context with awaiting := isAsync, yielding := false, decorating := false }

/--
An arrow function. In the middle of a conditional expression a result type is
only one if the conditional's colon still follows.
-/
def arrowFunction (inBranch : Bool) : Parse Expr := do
  let start ← here
  let isAsync ← if ← atWord "async" then
      followedBy do
        return !(← newlineBefore) && !(← atMark "=>")
    else
      pure false
  if isAsync then
    advance
  let (generics, parameters, result) ← inFunction isAsync false do
    if ← atIdentifier then
      return ([], ← bareParameter, [])
    let generics ← typeParameters? rules
    let parameters ← parameters rules
    let result ← resultType? rules
    return (generics, parameters, result)
  require ((← atMark "=>") && !(← newlineBefore))
  advance
  let body ← arrowBody rules isAsync
    (if inBranch then rules.branch else rules.assignment)
  if inBranch && !result.isEmpty then
    require (← atMark ":")
  return .function (← spanFrom start) {
    name := none
    head := generics ++ parameters.head
    params := parameters.params
    rest := parameters.rest
    result := result
    body := body }

/-! ### Assignments -/

/-- A `yield` with its operand. -/
def yieldExpression : Parse Expr := do
  let start ← here
  expectWord "yield"
  let bare ← if ← newlineBefore then
      pure true
    else do
      let closes ← atAnyMark [")", "]", "\x7d", ",", ";", ":"]
      pure (closes || (← token) == .endOfFile)
  if bare then
    return .compound (← spanFrom start) []
  let _ ← accept "*"
  let value ← rules.assignment
  return .compound (← spanFrom start) [.expr value]

/-- The assignment operators. -/
def assignmentOperators : List String :=
  ["=", "+=", "-=", "*=", "/=", "%=", "**=", "<<=", ">>=", ">>>=", "&=", "|=",
    "^=", "&&=", "||=", "??="]

/-- What may follow an operand: a conditional, an assignment or nothing. -/
def assignmentRest (inBranch : Bool) (start : Nat) (value : Expr) : Parse Expr := do
  if ← accept "?" then
    let yes ← rules.branch.within fun context => { context with noIn := false }
    expect ":"
    let no ← if inBranch then rules.branch else rules.assignment
    return .compound (← spanFrom start) [.expr value, .expr yes, .expr no]
  match ← token with
  | .mark operator =>
      if assignmentOperators.contains operator then
        let target ← target (operator = "=") value
        advance
        let right ← if inBranch then rules.branch else rules.assignment
        return .assignment (← spanFrom start) operator target right
      else
        return value
  | _ => return value

/-- An expression without a comma. -/
def assignmentExpr (inBranch : Bool) : Parse Expr := do
  let start ← here
  if (← atWord "yield") && (← context).yielding then
    return ← yieldExpression rules
  if ← mayBeArrow then
    match ← attempt (arrowFunction rules inBranch) with
    | some value => return value
    | none => pure ()
  let (value, _) ← binary rules (← context).budget 0
  assignmentRest rules inBranch start value

/-- Expressions with commas between them. -/
def expressionList : Parse Expr := do
  let start ← here
  let first ← rules.assignment
  if ← atMark "," then
    let others ← many do
      if ← accept "," then
        return some (Part.expr (← rules.assignment))
      else
        return none
    return .compound (← spanFrom start) (.expr first :: others)
  else
    return first

end ComponentDocs.Source.Parse
