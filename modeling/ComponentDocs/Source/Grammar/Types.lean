import ComponentDocs.Source.Grammar.Basic

/-!
Types, type parameters and the members of interfaces.

Also keys and parameters stand here, because types hold methods and function
types.
-/

namespace ComponentDocs.Source

open Parse

variable (rules : Rules)

/-- The parts of a key that is looked at together with its surroundings. -/
def Key.parts : Key → List Part
  | .identifier _ name => [.name name]
  | .privateName _ => []
  | .literal _ => []
  | .computed value => [.expr value]

/-- The type as a list of parts. -/
def typePart (type : Option TypeExpr) : List Part :=
  type.toList.map .type

namespace Parse

/-- Allows everything that may stand inside brackets. -/
def bracketed {α : Type} (parse : Parse α) : Parse α :=
  parse.within fun context =>
    { context with noIn := false, decorating := false }

/-- A key of an object, a class member or a signature. -/
def key : Parse Key := do
  let start ← here
  match ← token with
  | .word name _ =>
      advance
      return .identifier (← spanFrom start) name
  | .privateName _ =>
      advance
      return .privateName (← spanFrom start)
  | .string value =>
      advance
      return .literal (.string (← spanFrom start) value)
  | .number raw name =>
      advance
      return .literal (.number (← spanFrom start) raw name)
  | .bigint digits =>
      advance
      return .literal (.literal (← spanFrom start) digits)
  | .mark "[" =>
      advance
      let value ← bracketed rules.assignment
      expect "]"
      return .computed value
  | _ => fail

/-- Whether the token at hand may follow a modifier such as `readonly`. -/
def canFollowModifier : Parse Bool := do
  match ← token with
  | .word .. | .privateName _ | .string _ | .number .. | .bigint _ => return true
  | .mark text => return ["[", "\x7b", "*", "..."].contains text
  | _ => return false

/-- Whether the word at hand modifies what follows on its line. -/
def isModifier : Parse Bool :=
  followedBy do return !(← newlineBefore) && (← canFollowModifier)

/-! ### Names and arguments -/

/-- Names with dots between them. -/
def dottedNames (first : String) : Parse (List String) := do
  let others ← many do
    if ← accept "." then
      let (_, name) ← anyName
      return some name
    else
      return none
  return first :: others

/-- Reads a mark that starts with `<` as a single one. -/
def splitAngle : Parse Unit := do
  if ← atAnyMark ["<<", "<=", "<<="] then
    reread (.mark "<") 1

/-- Type arguments in angle brackets; there is at least one. -/
def typeArguments : Parse (List TypeExpr) := do
  splitAngle
  expect "<"
  let arguments ← commaList ">" (rules.type.within fun context =>
    { context with plainTypes := false })
  require !arguments.isEmpty
  return arguments

/-- Type arguments, if they follow on the same line. -/
def typeArguments? : Parse (List TypeExpr) := do
  if (← atAnyMark ["<", "<<"]) && !(← newlineBefore) then
    typeArguments rules
  else
    return []

/-- A type where conditional types need no parentheses. -/
def fullType : Parse TypeExpr :=
  rules.type.within fun context => { context with plainTypes := false }

/-- An annotation after a colon, if there is one. -/
def declaredType? : Parse (Option TypeExpr) := do
  if (← typed) && (← accept ":") then
    return some (← fullType rules)
  else
    return none

/-- One type parameter: its bound and its default. -/
def typeParameter : Parse (List Part) := do
  let _ ← many do
    let modifies ← if ← atWord "out" then
        followedBy atIdentifier
      else
        atAnyWord ["const", "in"]
    if modifies then
      advance
      return some ()
    else
      return none
  let _ ← identifier
  let bound ← if ← acceptWord "extends" then some <$> fullType rules else pure none
  let default ← if ← accept "=" then some <$> fullType rules else pure none
  return typePart bound ++ typePart default

/-- Type parameters in angle brackets; there is at least one. -/
def typeParameters : Parse (List Part) := do
  expect "<"
  let parameters ← commaList ">" (typeParameter rules)
  require !parameters.isEmpty
  return parameters.flatten

/-- Type parameters, if there are any. -/
def typeParameters? : Parse (List Part) := do
  if (← typed) && (← atMark "<") then
    typeParameters rules
  else
    return []

/-- A type, or a predicate on a name such as `x is T`. -/
def typeOrPredicate : Parse TypeExpr := do
  let start ← here
  let predicates ← if ← atIdentifier then
      followedBy do return (← atWord "is") && !(← newlineBefore)
    else
      pure false
  if predicates then
    let (_, name) ← identifier
    expectWord "is"
    let type ← fullType rules
    return .compound (← spanFrom start) [.name name, .type type]
  else
    fullType rules

/-- A result type after a colon, if there is one. -/
def resultType? : Parse (List Part) := do
  if (← typed) && (← accept ":") then
    return [.type (← typeOrPredicate rules)]
  else
    return []

/-! ### Parameters -/

/-- A decorator's expression. -/
def decorator : Parse Part := do
  expect "@"
  let value ← rules.leftSide.within fun context =>
    { context with decorating := true }
  return .expr value

/-- Any number of decorators. -/
def decorators : Parse (List Part) :=
  many do
    if ← atMark "@" then
      return some (← decorator rules)
    else
      return none

/-- Skips the modifiers that make a parameter a property. -/
def parameterModifiers : Parse Unit := do
  if ← typed then
    let _ ← many do
      let modifies ←
        if ← atAnyWord ["public", "private", "protected", "readonly", "override"] then
          followedBy do
            return (← atIdentifier) || (← atAnyMark ["\x7b", "["])
        else
          pure false
      if modifies then
        advance
        return some ()
      else
        return none

/-- What stands between the parentheses of a parameter list. -/
inductive ParameterItem where
  | param (value : Param)
  | rest (value : Param)
  /-- The type of `this`. -/
  | receiver (type : Option TypeExpr)

/-- One item of a parameter list. -/
def parameterItem : Parse ParameterItem := do
  let decorators ← decorators rules
  if ← accept "..." then
    let pattern ← rules.pattern
    let declaredType ← declaredType? rules
    require (← atMark ")")
    return .rest ⟨decorators, pattern, declaredType, none⟩
  parameterModifiers
  if (← typed) && (← acceptWord "this") then
    return .receiver (← declaredType? rules)
  let pattern ← rules.pattern
  if ← typed then
    let _ ← accept "?"
  let declaredType ← declaredType? rules
  let default ← if ← accept "=" then some <$> bracketed rules.assignment else pure none
  return .param ⟨decorators, pattern, declaredType, default⟩

/-- The parameters of a function, as they are told apart. -/
structure Parameters where
  head : List Part
  params : List Param
  rest : Option Param

/-- Parameters in parentheses. -/
def parameters : Parse Parameters := do
  expect "("
  let items ← bracketed (commaList ")" (parameterItem rules))
  return {
    head := items.flatMap fun
      | .receiver type => typePart type
      | _ => []
    params := items.filterMap fun
      | .param value => some value
      | _ => none
    rest := (items.filterMap fun
      | .rest value => some value
      | _ => none).head? }

/-- The parts of parameters that are not looked at on their own. -/
def Parameters.parts (parameters : Parameters) : List Part :=
  parameters.head ++ (parameters.params ++ parameters.rest.toList).map .param

/-! ### Members of interfaces and object types -/

/-- The end of a signature: a comma, or what ends a statement. -/
def signatureEnd : Parse Unit := do
  if ← accept "," then
    return ()
  semicolon

/-- Type parameters, parameters and result type of a signature. -/
def callParts : Parse (List Part) := do
  let generics ← typeParameters? rules
  let parameters ← parameters rules
  let result ← resultType? rules
  return generics ++ parameters.parts ++ result

/-- Whether brackets open an index signature, and not a computed key. -/
def opensIndexSignature : Parse Bool := do
  if !(← atMark "[") then
    return false
  followedBy do
    if (← atMark "]") || (← atMark "...") then
      return true
    if !(← atIdentifier) then
      return false
    advance
    if (← atMark ":") || (← atMark ",") then
      return true
    if ← accept "?" then
      return (← atMark ":") || (← atMark ",") || (← atMark "]")
    return false

/-- An index signature such as `[key: string]: T`. -/
def indexSignature : Parse (List Part) := do
  expect "["
  let keys ← commaList "]" do
    let _ ← identifier
    expect ":"
    fullType rules
  let value ← declaredType? rules
  return keys.map .type ++ typePart value

/-- Whether the word at hand is an accessor's `get` or `set`. -/
def opensAccessor : Parse Bool := do
  if ← atAnyWord ["get", "set"] then
    followedBy canFollowModifier
  else
    return false

/-- A property or method, where `start` is the offset of its first modifier. -/
def namedSignature (start : Nat) (accessor : Bool) : Parse Signature := do
  let key ← key rules
  match key with
  | .privateName _ => fail
  | _ => pure ()
  let optional ← accept "?"
  if accessor || (← atAnyMark ["(", "<"]) then
    let parts ← callParts rules
    signatureEnd
    return .method (← spanFrom start) key optional parts
  else
    let declaredType ← declaredType? rules
    signatureEnd
    return .property (← spanFrom start) key optional declaredType

/-- One member of an interface or object type. -/
def signature : Parse Signature := do
  let start ← here
  if ← atAnyMark ["(", "<"] then
    let parts ← callParts rules
    signatureEnd
    return .other parts
  let constructs ← if ← atWord "new" then
      followedBy (atAnyMark ["(", "<"])
    else
      pure false
  if constructs then
    advance
    let parts ← callParts rules
    signatureEnd
    return .other parts
  if (← atWord "readonly") && (← isModifier) then
    advance
  if ← opensAccessor then
    advance
    namedSignature rules start true
  else if ← opensIndexSignature then
    let parts ← indexSignature rules
    signatureEnd
    return .other parts
  else
    namedSignature rules start false

/-- The members of an interface or object type in braces. -/
def signatures : Parse (List Signature) := do
  expect "\x7b"
  let members ← bracketed (many do
    if ← atMark "\x7d" then
      return none
    else
      return some (← signature rules))
  expect "\x7d"
  return members

/-! ### Types -/

/-- A function type, from its type parameters on. -/
def functionTypeParts : Parse (List Part) := do
  let generics ← typeParameters? rules
  let parameters ← parameters rules
  expect "=>"
  let result ← typeOrPredicate rules
  return generics ++ parameters.parts ++ [.type result]

/-- Whether a parenthesis opens the parameters of a function type. -/
def opensFunctionType : Parse Bool :=
  followedBy do
    if (← atMark ")") || (← atMark "...") then
      return true
    parameterModifiers
    if (← atIdentifier) || (← atWord "this") then
      advance
    else
      let _ ← rules.pattern
    match ← token with
    | .mark ":" | .mark "," | .mark "?" | .mark "=" => return true
    | .mark ")" =>
        advance
        atMark "=>"
    | _ => return false

/-- Whether a function or constructor type starts here. -/
def atFunctionType : Parse Bool := do
  match ← token with
  | .mark "<" => return true
  | .mark "(" => opensFunctionType rules
  | .word "new" false => return true
  | .word "abstract" false => followedBy (atWord "new")
  | _ => return false

/-- A function or constructor type. -/
def functionType : Parse TypeExpr := do
  let start ← here
  let _ ← acceptWord "abstract"
  let _ ← acceptWord "new"
  let parts ← functionTypeParts rules
  return .compound (← spanFrom start) parts

/-- Whether a brace opens a mapped type. -/
def opensMappedType : Parse Bool :=
  followedBy do
    if ← atAnyMark ["+", "-"] then
      advance
      return ← atWord "readonly"
    let _ ← if ← atWord "readonly" then do
        if ← followedBy (atMark "[") then
          advance
    if ← accept "[" then
      if ← atIdentifier then
        advance
        atWord "in"
      else
        return false
    else
      return false

/-- A mapped type in braces. -/
def mappedType (start : Nat) : Parse TypeExpr := do
  expect "\x7b"
  let _ ← accept "+"
  let _ ← accept "-"
  let _ ← acceptWord "readonly"
  expect "["
  let _ ← identifier
  expectWord "in"
  let bound ← fullType rules
  let renamed ← if ← acceptWord "as" then some <$> fullType rules else pure none
  expect "]"
  if (← accept "+") || (← accept "-") then
    expect "?"
  else
    let _ ← accept "?"
  let value ← declaredType? rules
  unless ← accept "," do
    semicolon
  expect "\x7d"
  return .compound (← spanFrom start)
    (.type bound :: (typePart renamed ++ typePart value))

/-- One element of a tuple type, with its label. -/
def tupleElement : Parse (List Part) := do
  let labels : Parse Bool := do
    let _ ← anyName
    let _ ← accept "?"
    atMark ":"
  let _ ← accept "..."
  if ((← ahead labels).getD false) then
    let (_, name) ← anyName
    let _ ← accept "?"
    expect ":"
    return [.name name, .type (← fullType rules)]
  else
    let type ← fullType rules
    let _ ← accept "?"
    return [.type type]

/-- Words that are types of their own, unless a dot follows. -/
def keywordTypes : List String :=
  ["any", "unknown", "string", "number", "bigint", "symbol", "boolean",
    "undefined", "never", "object"]

/-- A type name with its arguments. -/
def typeReference : Parse TypeExpr := do
  let start ← here
  let (_, first) ← if ← atWord "const" then anyName else identifier
  let name ← dottedNames first
  let nameSpan ← spanFrom start
  let arguments ← typeArguments? rules
  return .reference (← spanFrom start) nameSpan name arguments

/-- An import type such as `import("x").T`, from its `import` on. -/
def importTypeParts : Parse (List Part) := do
  expectWord "import"
  expect "("
  let argument ← fullType rules
  let options ← if ← accept "," then
      if ← atMark ")" then pure []
      else do
        let value ← bracketed rules.assignment
        let _ ← accept ","
        pure [Part.expr value]
    else
      pure []
  expect ")"
  let qualifier ← many do
    if ← accept "." then
      let (_, name) ← anyName
      return some (Part.name name)
    else
      return none
  let arguments ← typeArguments? rules
  return .type argument :: (options ++ qualifier ++ arguments.map .type)

/-- A type query, after its `typeof`. -/
def typeQueryParts : Parse (List Part) := do
  if ← atWord "import" then
    importTypeParts rules
  else
    let first ← if ← acceptWord "this" then pure [] else do
      let (_, name) ← identifier
      pure [name]
    let names ← dottedNames ""
    let arguments ← typeArguments? rules
    return (first ++ names.drop 1).map .name ++ arguments.map .type

/-- The type that a word starts. -/
def wordType (text : String) : Parse TypeExpr := do
  let start ← here
  let dotted ← followedBy (atMark ".")
  if keywordTypes.contains text && !dotted then
    advance
    return .compound (← spanFrom start) []
  match text with
  | "void" | "null" | "true" | "false" =>
      advance
      return .compound (← spanFrom start) []
  | "this" =>
      advance
      if (← atWord "is") && !(← newlineBefore) then
        advance
        let type ← fullType rules
        return .compound (← spanFrom start) [.type type]
      else
        return .compound (← spanFrom start) []
  | "typeof" =>
      advance
      let parts ← typeQueryParts rules
      return .compound (← spanFrom start) parts
  | "import" =>
      let parts ← importTypeParts rules
      return .compound (← spanFrom start) parts
  | "asserts" =>
      let asserts ← followedBy do
        return ((← atIdentifier) || (← atWord "this")) && !(← newlineBefore)
      if asserts then
        advance
        let subject ← if ← acceptWord "this" then pure [] else do
          let (_, name) ← identifier
          pure [Part.name name]
        let type ← if ← acceptWord "is" then some <$> fullType rules else pure none
        return .compound (← spanFrom start) (subject ++ typePart type)
      else
        typeReference rules
  | _ => typeReference rules

/-- A type without operators around it. -/
def primaryType : Parse TypeExpr := do
  let start ← here
  match ← token with
  | .string _ | .number .. | .bigint _ =>
      advance
      return .compound (← spanFrom start) []
  | .template .. =>
      let (_, parts) ← template true (.type <$> fullType rules)
      return .compound (← spanFrom start) parts
  | .mark "-" =>
      advance
      match ← token with
      | .number .. | .bigint _ =>
          advance
          return .compound (← spanFrom start) []
      | _ => fail
  | .mark "\x7b" =>
      if ← opensMappedType then
        mappedType rules start
      else
        let members ← signatures rules
        return .literal (← spanFrom start) members
  | .mark "[" =>
      advance
      let elements ← commaList "]" (tupleElement rules)
      return .compound (← spanFrom start) elements.flatten
  | .mark "(" =>
      advance
      let inner ← fullType rules
      expect ")"
      return .parenthesized (← spanFrom start) inner
  | .word text false => wordType rules text
  | .word .. => typeReference rules
  | _ => fail

/-- A type followed by brackets: an array type or an indexed one. -/
def postfixType : Parse TypeExpr := do
  let start ← here
  let first ← primaryType rules
  first |> grow fun type => do
    if (← atMark "[") && !(← newlineBefore) then
      advance
      if ← accept "]" then
        return some (.compound (← spanFrom start) [.type type])
      else
        let index ← fullType rules
        expect "]"
        return some (.compound (← spanFrom start) [.type type, .type index])
    else
      return none

/-- The bound of an inferred type, unless a conditional type is meant. -/
def inferredBound : Parse (Option TypeExpr) := do
  let plain := (← context).plainTypes
  let bound ← attempt do
    expectWord "extends"
    let type ← rules.type.within fun context => { context with plainTypes := true }
    require (plain || !(← atMark "?"))
    return type
  return bound

/-- A type with the operators in front of it. -/
def operatorType : Nat → Parse TypeExpr
  | 0 => fail
  | n + 1 => do
      let start ← here
      match ← token with
      | .word "keyof" false | .word "unique" false | .word "readonly" false =>
          advance
          let type ← operatorType n
          return .compound (← spanFrom start) [.type type]
      | .word "infer" false =>
          advance
          let _ ← identifier
          let bound ← inferredBound rules
          return .compound (← spanFrom start) (typePart bound)
      | _ => postfixType rules

/-- A list of types with an operator between them, and perhaps in front. -/
def typeOperands (operator : String) (operand : Parse TypeExpr) :
    Parse (Bool × List TypeExpr) := do
  let leading ← accept operator
  let first ← operand
  let others ← many do
    if ← accept operator then
      return some (← operand)
    else
      return none
  return (leading || !others.isEmpty, first :: others)

/-- An intersection, or a single type. -/
def intersectionType : Parse TypeExpr := do
  let start ← here
  let budget := (← context).budget
  let (joined, types) ← typeOperands "&" (operatorType rules budget)
  match joined, types with
  | false, [type] => return type
  | _, types => return .compound (← spanFrom start) (types.map .type)

/-- A union, or a single type. -/
def unionType : Parse TypeExpr := do
  let start ← here
  let (joined, types) ← typeOperands "|" (intersectionType rules)
  match joined, types with
  | false, [type] => return type
  | _, types => return .union (← spanFrom start) types

/-- Any type. -/
def typeExpr : Parse TypeExpr := do
  let start ← here
  if ← atFunctionType rules then
    functionType rules
  else
    let type ← unionType rules
    if (← atWord "extends") && !(← newlineBefore) && !(← context).plainTypes then
      advance
      let bound ← rules.type.within fun context => { context with plainTypes := true }
      expect "?"
      let yes ← fullType rules
      expect ":"
      let no ← fullType rules
      return .compound (← spanFrom start) ([type, bound, yes, no].map .type)
    else
      return type

end Parse

end ComponentDocs.Source
