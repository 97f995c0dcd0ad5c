import ComponentDocs.Source.Grammar.Expressions

/-!
Statements and declarations.

A declaration's span starts at its first modifier, such as `declare`. The
`export` in front of it belongs to the statement only.
-/

namespace ComponentDocs.Source.Parse

variable (rules : Rules)

/-- Goes where an expression statement's parts may stand. -/
def openExpression : Parse Expr := bracketed rules.expression

/-! ### Variables -/

/-- Whether a pattern takes a value apart. -/
def isDestructuring : Pattern → Bool
  | .destructuring .. => true
  | .identifier .. => false

/-- One binding. In the head of a loop it may lack the value it needs else. -/
def declarator (isConst inLoop : Bool) : Parse Declarator := do
  let start ← here
  let pattern ← rules.pattern
  if ← typed then
    let _ ← accept "!"
  let declaredType ← declaredType? rules
  let value ← if ← accept "=" then some <$> rules.assignment else pure none
  let needed := !inLoop && !(← context).ambient &&
    (isConst || isDestructuring pattern)
  require (value.isSome || !needed)
  return ⟨← spanFrom start, pattern, declaredType, value⟩

/-- The bindings of a variable declaration. -/
def declarators (isConst inLoop : Bool) : Parse (List Declarator) := do
  let first ← declarator rules isConst inLoop
  let others ← many do
    if ← accept "," then
      return some (← declarator rules isConst inLoop)
    else
      return none
  return first :: others

/-- Whether the name of a resource follows on the same line. -/
def resourceFollows : Parse Bool :=
  followedBy do
    return (← atIdentifier) && !(← newlineBefore) && !(← atAnyWord ["of", "in"])

/-- Whether a variable declaration starts here. -/
def atVariables : Parse Bool := do
  match ← token with
  | .word "var" false => return true
  | .word "const" false => return true
  | .word "let" false =>
      followedBy do return (← atIdentifier) || (← atAnyMark ["[", "\x7b"])
  | .word "using" false => resourceFollows
  | .word "await" false =>
      followedBy do
        return (← atWord "using") && !(← newlineBefore) && (← resourceFollows)
  | _ => return false

/-- A variable declaration whose span starts at `start`. -/
def variableDeclaration (start : Nat) : Parse Decl := do
  let isConst ← atWord "const"
  let _ ← acceptWord "await"
  advance
  let bindings ← declarators rules isConst false
  semicolon
  return .variableDecl (← spanFrom start) bindings

/-! ### Types and namespaces -/

/-- One entry of an interface's `extends` list. -/
def interfaceBase : Parse Base := do
  match ← rules.leftSide with
  | .instantiation _ inner arguments => return ⟨inner, arguments⟩
  | value => return ⟨value, ← typeArguments? rules⟩

/-- An interface whose span starts at `start`. -/
def interfaceFrom (start : Nat) : Parse Decl := do
  expectWord "interface"
  let (_, name) ← identifier
  let generics ← typeParameters? rules
  let bases ← if ← acceptWord "extends" then do
      let first ← interfaceBase rules
      let others ← many do
        if ← accept "," then
          return some (← interfaceBase rules)
        else
          return none
      pure (first :: others)
    else
      pure []
  let members ← signatures rules
  return .interfaceDecl (← spanFrom start) name generics bases members

/-- A type alias whose span starts at `start`. -/
def aliasFrom (start : Nat) : Parse Decl := do
  expectWord "type"
  let (_, name) ← identifier
  let generics ← typeParameters? rules
  expect "="
  let intrinsic ← if ← atWord "intrinsic" then
      followedBy do return !(← atMark ".")
    else
      pure false
  let typeStart ← here
  let type ← if intrinsic then do
      advance
      pure (TypeExpr.compound (← spanFrom typeStart) [])
    else
      fullType rules
  semicolon
  return .aliasDecl (← spanFrom start) name generics type

/-- One member of an enumeration. -/
def enumMember : Parse (List Part) := do
  let key ← key rules
  match key with
  | .privateName _ => fail
  | _ =>
      let value ← default? rules
      return key.parts ++ value.toList.map .expr

/-- An enumeration whose span starts at `start`. -/
def enumFrom (start : Nat) : Parse Decl := do
  let _ ← acceptWord "const"
  expectWord "enum"
  let _ ← identifier
  expect "\x7b"
  let members ← bracketed (commaList "\x7d" (enumMember rules))
  return .other (← spanFrom start) members.flatten

/-- The statements of a namespace in braces. -/
def namespaceBlock : Parse (List Stmt) := do
  expect "\x7b"
  let statements ← (many do
    if ← atMark "\x7d" then
      return none
    else
      return some (← rules.statement)).within fun context =>
        { context with outermost := true }
  expect "\x7d"
  return statements.dropWhile isDirective

/-- A namespace or module whose span starts at `start`. -/
def namespaceFrom (start : Nat) : Parse Decl := do
  let isModule ← acceptWord "module"
  unless isModule do
    expectWord "namespace"
  let quoted ← match ← token with
    | .string _ => pure isModule
    | _ => pure false
  if quoted then
    advance
    if ← atMark "\x7b" then
      let statements ← namespaceBlock rules
      return .namespaceDecl (← spanFrom start) statements
    else
      semicolon
      return .namespaceDecl (← spanFrom start) []
  else
    let (_, name) ← identifier
    let _ ← dottedNames name
    let statements ← namespaceBlock rules
    return .namespaceDecl (← spanFrom start) statements

/-! ### Declarations -/

/-- Whether the word at hand and the next one on its line declare something. -/
def declares (next : Parse Bool) : Parse Bool :=
  followedBy do return (← next) && !(← newlineBefore)

/-- Whether the token at hand is a string. -/
def atString : Parse Bool := do
  match ← token with
  | .string _ => return true
  | _ => return false

/-- Whether a declaration starts here, its modifiers looked at `n` deep. -/
def atDeclaration : Nat → Parse Bool
  | 0 => return false
  | n + 1 => do
      if (← atVariables) || (← atAsyncFunction) then
        return true
      match ← token with
      | .word "class" false | .word "function" false => return true
      | .mark "@" => return true
      | .word "enum" false => typed
      | .word "interface" false | .word "type" false =>
          return (← typed) && (← declares atIdentifier)
      | .word "namespace" false => return (← typed) && (← declares atIdentifier)
      | .word "module" false =>
          return (← typed) && (← declares do
            return (← atIdentifier) || (← atString))
      | .word "abstract" false =>
          return (← typed) && (← declares (atWord "class"))
      | .word "global" false =>
          return (← typed) && (← context).ambient && (← followedBy (atMark "\x7b"))
      | .word "declare" false =>
          return (← typed) && (← declares do
            return (← atDeclaration n) || (← atWord "global"))
      | _ => return false

/-- A declaration after its modifiers; its span starts at `start`. -/
def declarationFrom (start : Nat) (decorators : List Part) : Parse Decl := do
  match ← token with
  | .word "class" false => return .classDecl (← classFrom rules start decorators)
  | .word "abstract" false =>
      advance
      return .classDecl (← classFrom rules start decorators)
  | .word "interface" false => interfaceFrom rules start
  | .word "type" false => aliasFrom rules start
  | .word "enum" false => enumFrom rules start
  | .word "namespace" false | .word "module" false => namespaceFrom rules start
  | .word "global" false =>
      advance
      let statements ← namespaceBlock rules
      return .other (← spanFrom start) (statements.map .stmt)
  | .word "function" false | .word "async" false =>
      let value ← functionFromKeyword rules true
      require value.name.isSome
      return .functionDecl (← spanFrom start) value
  | _ =>
      if (← typed) && (← atWord "const") && (← followedBy (atWord "enum")) then
        enumFrom rules start
      else if ← atVariables then
        variableDeclaration rules start
      else
        fail

/-- A declaration with its modifiers. Only a class has decorators. -/
def declaration : Parse Decl := do
  let start ← here
  let decorators ← decorators rules
  let declared ← if ← acceptWord "declare" then
      (declarationFrom rules start decorators).within fun context =>
        { context with ambient := true }
    else
      declarationFrom rules start decorators
  match declared with
  | .classDecl _ => return declared
  | _ =>
      require decorators.isEmpty
      return declared

/-! ### Imports and exports -/

/-- Attributes behind `with`. -/
def importAttributes : Parse Unit := do
  if (← atWord "with") || ((← atWord "assert") && !(← newlineBefore)) then
    advance
    expect "\x7b"
    let _ ← commaList "\x7d" do
      let _ ← key rules
      expect ":"
      require (← atString)
      advance

/-- The name of a module behind `from`. -/
def fromClause : Parse Unit := do
  expectWord "from"
  require (← atString)
  advance
  importAttributes rules

/-- A name, or a string, which has no word. -/
def exportedName : Parse String := do
  if ← atString then
    advance
    return ""
  else
    let (_, name) ← anyName
    return name

/-- Whether words are a name that may be marked as a type and renamed. -/
def isSpecifier (typed : Bool) : List String → Bool
  | [_] => true
  | [first, _] => typed && first = "type"
  | [_, second, _] => second = "as"
  | [first, _, third, _] => typed && first = "type" && third = "as"
  | _ => false

/-- Names in braces, each perhaps renamed with `as`. -/
def nameList : Parse Unit := do
  expect "\x7b"
  let _ ← commaList "\x7d" do
    let words ← many do
      let named ← match ← token with
        | .word .. | .string _ => pure true
        | _ => pure false
      if named then
        return some (← exportedName)
      else
        return none
    require (isSpecifier (← typed) words)

/-- What an import binds, up to `from`. -/
def importClause : Parse Unit := do
  if ← accept "*" then
    expectWord "as"
    let _ ← identifier
  else if ← atMark "\x7b" then
    nameList
  else
    let _ ← identifier
    if ← accept "," then
      if ← accept "*" then
        expectWord "as"
        let _ ← identifier
      else
        nameList

/-- The rest of `import name = …`. -/
def importAlias : Parse Unit := do
  let _ ← identifier
  expect "="
  let required ← if ← atWord "require" then followedBy (atMark "(") else pure false
  if required then
    advance
    expect "("
    require (← atString)
    advance
    expect ")"
  else
    let (_, name) ← identifier
    let _ ← dottedNames name

/-- An import after its keyword. -/
def importRest : Parse Unit := do
  if ← atString then
    advance
    importAttributes rules
    return ()
  let renames : Parse Unit := do
    require (← typed)
    importAlias
  let plain : Parse Unit := do
    importClause
    fromClause rules
  let marked (word : String) (rest : Parse Unit) : Parse Unit := do
    expectWord word
    rest
  if ← typed then
    either (marked "type" renames) (either (marked "type" plain)
      (either renames (either (marked "defer" plain) plain)))
  else
    either (marked "defer" plain) plain

/-- An import statement. -/
def importStatement : Parse Stmt := do
  let start ← here
  require (← context).outermost
  expectWord "import"
  importRest rules
  semicolon
  return .other (← spanFrom start) []

/-- What `export default` exports. -/
def exportDefault (start : Nat) : Parse Stmt := do
  let inner ← here
  let isAbstract ← if (← typed) && (← atWord "abstract") then
      declares (atWord "class")
    else
      pure false
  let isInterface ← if (← typed) && (← atWord "interface") then
      declares atIdentifier
    else
      pure false
  if (← atWord "class") || (← atMark "@") || isAbstract then
    let decorators ← decorators rules
    let _ ← acceptWord "abstract"
    let value ← classFrom rules inner decorators
    return .exportedDefault (← spanFrom start) (.classDecl value)
  else if (← atWord "function") || (← atAsyncFunction) then
    let value ← functionFromKeyword rules true
    let span ← spanFrom inner
    return .exportedDefault (← spanFrom start) (.functionDecl span value)
  else if isInterface then
    let value ← interfaceFrom rules inner
    return .exportedDefault (← spanFrom start) value
  else
    let value ← bracketed rules.assignment
    semicolon
    return .other (← spanFrom start) [.expr value]

/-- Whether `export type` exports names, and not an alias. -/
def exportsTypes : Parse Bool := do
  if (← typed) && (← atWord "type") then
    followedBy (atAnyMark ["\x7b", "*"])
  else
    return false

/-- An export of names, after its `type`. -/
def exportNames (start : Nat) : Parse Stmt := do
  if ← accept "*" then
    if ← acceptWord "as" then
      let _ ← exportedName
    fromClause rules
    semicolon
    return .other (← spanFrom start) []
  else
    nameList
    if ← atWord "from" then
      fromClause rules
    semicolon
    return .exported (← spanFrom start) none

/-- An export after its keyword; a class may have decorators in front. -/
def exportRest (start : Nat) (leading : List Part) : Parse Stmt := do
  if ← acceptWord "default" then
    match ← exportDefault rules start with
    | .exportedDefault span (.classDecl value) =>
        return .exportedDefault span
          (.classDecl { value with decorators := leading ++ value.decorators })
    | statement => return statement
  if ← atAnyMark ["\x7b", "*"] then
    return ← exportNames rules start
  if ← exportsTypes then
    advance
    return ← exportNames rules start
  if (← typed) && (← accept "=") then
    let value ← bracketed rules.expression
    semicolon
    return .other (← spanFrom start) [.expr value]
  if (← typed) && (← atWord "as") then
    advance
    expectWord "namespace"
    let _ ← identifier
    semicolon
    return .other (← spanFrom start) []
  if (← typed) && (← atWord "import") then
    let inner ← here
    advance
    let _ ← acceptWord "type"
    importAlias
    semicolon
    let span ← spanFrom inner
    return .exported (← spanFrom start) (some (.other span []))
  require (← atDeclaration 2)
  match ← declaration rules with
  | .classDecl value =>
      return .exported (← spanFrom start)
        (some (.classDecl { value with decorators := leading ++ value.decorators }))
  | value => return .exported (← spanFrom start) (some value)

/-- An export statement behind decorators. -/
def exportStatement (leading : List Part) : Parse Stmt := do
  let start ← here
  require (← context).outermost
  expectWord "export"
  exportRest rules start leading

/-! ### Control flow -/

/-- A statement that stands alone below another. -/
def substatement : Parse Part := do
  require !(← atAnyWord ["const", "class"])
  let value ← rules.statement.within fun context =>
    { context with outermost := false, noIn := false }
  return .stmt value

/-- A condition in parentheses. -/
def condition : Parse Part := do
  expect "("
  let value ← openExpression rules
  expect ")"
  return .expr value

/-- An expression, unless a mark follows at once. -/
def expressionBefore (close : String) : Parse (List Part) := do
  if ← atMark close then
    return []
  else
    return [.expr (← openExpression rules)]

/-- The parts of a declaration in the head of a loop. -/
def bindingParts (binding : Declarator) : List Part :=
  binding.pattern.parts ++ typePart binding.declaredType ++
    binding.value.toList.map .expr

/-- What a loop starts with, before `;`, `of` or `in`. -/
def loopStart : Parse (Bool × List Part) := do
  if ← atMark ";" then
    return (false, [])
  if ← atVariables then
    let _ ← acceptWord "await"
    advance
    let bindings ← declarators rules false true
    return (bindings.length = 1, bindings.flatMap bindingParts)
  else
    let value ← rules.expression
    if (← atWord "of") || (← atWord "in") then
      let target ← target true value
      return (true, [.expr target])
    else
      return (false, [.expr value])

/-- A `for` loop. -/
def forParts : Parse (List Part) := do
  expectWord "for"
  let _ ← acceptWord "await"
  expect "("
  let (single, front) ← (loopStart rules).within fun context =>
    { context with noIn := true, decorating := false }
  let head ← if single && (← acceptWord "of") then do
      pure [Part.expr (← bracketed rules.assignment)]
    else if single && (← acceptWord "in") then do
      pure [Part.expr (← openExpression rules)]
    else do
      expect ";"
      let test ← expressionBefore rules ";"
      expect ";"
      let step ← expressionBefore rules ")"
      pure (test ++ step)
  expect ")"
  let body ← substatement rules
  return front ++ head ++ [body]

/-- An `if` statement. -/
def ifParts : Parse (List Part) := do
  expectWord "if"
  let test ← condition rules
  let yes ← substatement rules
  if ← acceptWord "else" then
    return [test, yes, ← substatement rules]
  else
    return [test, yes]

/-- One case of a `switch` statement. -/
def switchCase : Parse (List Part) := do
  let test ← if ← acceptWord "default" then
      pure []
    else do
      expectWord "case"
      pure [Part.expr (← openExpression rules)]
  expect ":"
  let statements ← many do
    if (← atMark "\x7d") || (← atAnyWord ["case", "default"]) then
      return none
    else
      return some (Part.stmt (← rules.statement))
  return test ++ statements

/-- A `switch` statement. -/
def switchParts : Parse (List Part) := do
  expectWord "switch"
  let subject ← condition rules
  expect "\x7b"
  let cases ← (many do
    if ← atMark "\x7d" then
      return none
    else
      return some (← switchCase rules)).within fun context =>
        { context with outermost := false }
  expect "\x7d"
  return subject :: cases.flatten

/-- A `try` statement; it has a handler or a finalizer. -/
def tryParts : Parse (List Part) := do
  expectWord "try"
  let body ← block rules
  let handled ← atWord "catch"
  let handler ← if ← acceptWord "catch" then do
      let binding ← if ← accept "(" then do
          let pattern ← rules.pattern
          let declaredType ← declaredType? rules
          expect ")"
          pure (pattern.parts ++ typePart declaredType)
        else
          pure []
      pure (binding ++ (← block rules).map .stmt)
    else
      pure []
  let finalized ← atWord "finally"
  let finalizer ← if ← acceptWord "finally" then block rules else pure []
  require (handled || finalized)
  return body.map .stmt ++ handler ++ finalizer.map .stmt

/-- A jump to a label, or without one. -/
def jump : Parse (List Part) := do
  advance
  if !(← newlineBefore) && (← atIdentifier) then
    advance
  semicolon
  return []

/-- A `return` or `throw` with its value. -/
def exitParts (valueNeeded : Bool) : Parse (List Part) := do
  advance
  let ended ← do
    let closes ← atAnyMark [";", "\x7d"]
    pure (closes || (← newlineBefore) || (← token) == .endOfFile)
  if ended then
    require !valueNeeded
    semicolon
    return []
  else
    let value ← openExpression rules
    semicolon
    return [.expr value]

/-- A statement that a keyword tells, as parts. -/
def keywordParts (word : String) : Option (Parse (List Part)) :=
  match word with
  | "if" => some (ifParts rules)
  | "for" => some (forParts rules)
  | "while" => some do
      advance
      let test ← condition rules
      return [test, ← substatement rules]
  | "do" => some do
      advance
      let body ← substatement rules
      expectWord "while"
      let test ← condition rules
      let _ ← accept ";"
      return [body, test]
  | "switch" => some (switchParts rules)
  | "try" => some (tryParts rules)
  | "break" | "continue" => some jump
  | "return" => some do
      require (← context).returning
      exitParts rules false
  | "throw" => some (exitParts rules true)
  | "with" => some do
      advance
      let scope ← condition rules
      return [scope, ← substatement rules]
  | "debugger" => some do
      advance
      semicolon
      return []
  | _ => none

/-! ### Statements -/

/-- An expression statement or a labelled statement. -/
def expressionStatement : Parse Stmt := do
  let start ← here
  let labelled ← if ← atIdentifier then followedBy (atMark ":") else pure false
  if labelled then
    advance
    advance
    let body ← substatement rules
    return .other (← spanFrom start) [body]
  else
    let value ← openExpression rules
    semicolon
    return .expression (← spanFrom start) value

/-- Whether `import` starts an expression. -/
def importIsExpression : Parse Bool :=
  followedBy (atAnyMark ["(", "."])

/-- A statement that starts with decorators. -/
def decoratedStatement : Parse Stmt := do
  let exporting ← ahead do
    let _ ← decorators rules
    atWord "export"
  if exporting.getD false then
    let leading ← decorators rules
    exportStatement rules leading
  else
    return .declaration (← declaration rules)

/-- Any statement. -/
def statement : Parse Stmt := do
  let start ← here
  match ← token with
  | .mark "\x7b" =>
      let statements ← block rules
      return .other (← spanFrom start) (statements.map .stmt)
  | .mark ";" =>
      advance
      return .other (← spanFrom start) []
  | .mark "@" => decoratedStatement rules
  | .word "import" false =>
      if ← importIsExpression then
        expressionStatement rules
      else
        importStatement rules
  | .word "export" false => exportStatement rules []
  | .word text false =>
      match keywordParts rules text with
      | some parse =>
          let parts ← parse
          return .other (← spanFrom start) parts
      | none =>
          if ← atDeclaration 2 then
            return .declaration (← declaration rules)
          else
            expressionStatement rules
  | _ => expressionStatement rules

end ComponentDocs.Source.Parse
