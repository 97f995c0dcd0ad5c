import ComponentDocs.Text.Slice

/-!
The syntax tree of a source file.

The tree tells apart the constructs that documentation is made from: component
declarations, prop shapes, object literals, type references and unions. Every
other construct is a `compound` or `other` node, which keeps its parts in the
order in which they are visited. So no part of the source is lost: `mentions`
lists the identifiers that any node refers to.
-/

namespace ComponentDocs.Source

mutual

/-- A part of a node that is not looked at on its own. -/
inductive Part where
  /-- An identifier that is referred to, or a name such as a key. -/
  | name (text : String)
  | expr (value : Expr)
  | type (value : TypeExpr)
  | stmt (value : Stmt)
  | param (value : Param)
  | member (value : Signature)

/-- An expression. -/
inductive Expr where
  | identifier (span : Span) (name : String)
  | string (span : Span) (value : String)
  /-- A number as it is written, and the property name it stands for. -/
  | number (span : Span) (raw : String) (name : String)
  /-- Another literal, such as a BigInt or `null`, and its name as a key. -/
  | literal (span : Span) (name : String)
  /-- A template without substitutions; its text, unless an escape is broken. -/
  | template (span : Span) (text : Option String)
  | array (span : Span) (items : List Part)
  | object (span : Span) (entries : List Entry)
  /-- A function or an arrow function. -/
  | function (span : Span) (value : Function)
  | classExpr (value : ClassNode)
  /-- `object.property` -/
  | member (span : Span) (object : Expr) (property : String)
  /-- `object[index]`, or a private member. -/
  | element (span : Span) (object : Expr) (index : List Part)
  | assignment (span : Span) (operator : String) (target value : Expr)
  | parenthesized (span : Span) (inner : Expr)
  /-- `inner as T`, `inner satisfies T` or `inner!` -/
  | typed (span : Span) (inner : Expr) (types : List TypeExpr)
  /-- `<T>inner` -/
  | assertion (span : Span) (type : TypeExpr) (inner : Expr)
  /-- `inner<T, …>` without a call. -/
  | instantiation (span : Span) (inner : Expr) (arguments : List TypeExpr)
  | compound (span : Span) (parts : List Part)

/-- An entry of an object literal. -/
inductive Entry where
  | property (key : Key) (value : Expr)
  | spread (value : Expr)

/-- The key of an entry, a class member or a signature. -/
inductive Key where
  | identifier (span : Span) (name : String)
  | privateName (span : Span)
  /-- A string or number without brackets. -/
  | literal (value : Expr)
  /-- An expression in brackets. -/
  | computed (value : Expr)

/-- What a name is bound to. -/
inductive Pattern where
  | identifier (span : Span) (name : String)
  | destructuring (span : Span) (parts : List Part)

/-- A parameter. -/
structure Param where
  decorators : List Part
  pattern : Pattern
  declaredType : Option TypeExpr
  default? : Option Expr

/-- The body of a function. -/
inductive Body where
  | block (statements : List Stmt)
  | expression (value : Expr)
  /-- Only the signature is given. -/
  | absent

/-- A function: type parameters, parameters, result type and body. -/
structure Function where
  name : Option String
  /-- Type parameters, and the type of `this`. -/
  head : List Part
  params : List Param
  rest : Option Param
  result : List Part
  body : Body

/-- A class. -/
structure ClassNode where
  span : Span
  decorators : List Part
  name : Option String
  generics : List Part
  superClass : Option Expr
  superArguments : List TypeExpr
  implemented : List Part
  members : List ClassMember

/-- A member of a class. -/
inductive ClassMember where
  /-- A field, possibly without an initial value. -/
  | field (isStatic : Bool) (decorators : List Part) (key : Key)
      (declaredType : Option TypeExpr) (value : Option Expr)
  | other (parts : List Part)

/-- A type. -/
inductive TypeExpr where
  /-- A type name with its own span, and type arguments. -/
  | reference (span nameSpan : Span) (name : List String)
      (arguments : List TypeExpr)
  | union (span : Span) (alternatives : List TypeExpr)
  | parenthesized (span : Span) (inner : TypeExpr)
  /-- An object type with its signatures. -/
  | literal (span : Span) (members : List Signature)
  | compound (span : Span) (parts : List Part)

/-- A member of an interface or object type. -/
inductive Signature where
  | property (span : Span) (key : Key) (optional : Bool)
      (declaredType : Option TypeExpr)
  /-- A method or accessor; `parts` are its parameters and result. -/
  | method (span : Span) (key : Key) (optional : Bool) (parts : List Part)
  | other (parts : List Part)

/-- One binding of a variable declaration. -/
structure Declarator where
  span : Span
  pattern : Pattern
  declaredType : Option TypeExpr
  value : Option Expr

/-- An entry of an interface's `extends` list. -/
structure Base where
  expression : Expr
  arguments : List TypeExpr

/-- A declaration. -/
inductive Decl where
  | classDecl (value : ClassNode)
  | functionDecl (span : Span) (value : Function)
  | variableDecl (span : Span) (declarators : List Declarator)
  | interfaceDecl (span : Span) (name : String) (generics : List Part)
      (bases : List Base) (members : List Signature)
  | aliasDecl (span : Span) (name : String) (generics : List Part)
      (type : TypeExpr)
  /-- A namespace; a dotted name `A.B` is one namespace. -/
  | namespaceDecl (span : Span) (statements : List Stmt)
  | other (span : Span) (parts : List Part)

/-- A statement. -/
inductive Stmt where
  | declaration (value : Decl)
  /-- `export` in front of a declaration, or an export list. -/
  | exported (span : Span) (value : Option Decl)
  /-- `export default` of a class, function or interface. -/
  | exportedDefault (span : Span) (value : Decl)
  | expression (span : Span) (value : Expr)
  | other (span : Span) (parts : List Part)

end

/-- The stretch of source that an expression covers. -/
def Expr.span : Expr → Span
  | .identifier span _ => span
  | .string span _ => span
  | .number span _ _ => span
  | .literal span _ => span
  | .template span _ => span
  | .array span _ => span
  | .object span _ => span
  | .function span _ => span
  | .classExpr value => value.span
  | .member span _ _ => span
  | .element span _ _ => span
  | .assignment span _ _ _ => span
  | .parenthesized span _ => span
  | .typed span _ _ => span
  | .assertion span _ _ => span
  | .instantiation span _ _ => span
  | .compound span _ => span

/-- The stretch of source that a type covers. -/
def TypeExpr.span : TypeExpr → Span
  | .reference span _ _ _ => span
  | .union span _ => span
  | .parenthesized span _ => span
  | .literal span _ => span
  | .compound span _ => span

/-- The stretch of source that a declaration covers. -/
def Decl.span : Decl → Span
  | .classDecl value => value.span
  | .functionDecl span _ => span
  | .variableDecl span _ => span
  | .interfaceDecl span _ _ _ _ => span
  | .aliasDecl span _ _ _ => span
  | .namespaceDecl span _ => span
  | .other span _ => span

/-- The stretch of source that a statement covers. -/
def Stmt.span : Stmt → Span
  | .declaration value => value.span
  | .exported span _ => span
  | .exportedDefault span _ => span
  | .expression span _ => span
  | .other span _ => span

/-- The name that an expression stands for when it is used as a key. -/
def Expr.keyName? : Expr → Option String
  | .string _ value => some value
  | .number _ _ name => some name
  | .literal _ name => some name
  | .template _ text => text
  | _ => none

/-- The name of a key that is known without running the program. -/
def Key.staticName? : Key → Option String
  | .identifier _ name => some name
  | .privateName _ => none
  | .literal value => value.keyName?
  | .computed value => value.keyName?

/-- The name of a key that is written without brackets. -/
def Key.plainName? : Key → Option String
  | .computed _ => none
  | key => key.staticName?

/-- The stretch of source that a key covers, without brackets. -/
def Key.span : Key → Span
  | .identifier span _ => span
  | .privateName span => span
  | .literal value => value.span
  | .computed value => value.span

/-- The expression inside parentheses and type annotations. -/
def Expr.core : Expr → Expr
  | .parenthesized _ inner => inner.core
  | .typed _ inner _ => inner.core
  | .assertion _ _ inner => inner.core
  | .instantiation _ inner _ => inner.core
  | expr => expr

/-- The expression inside parentheses. -/
def Expr.unparenthesized : Expr → Expr
  | .parenthesized _ inner => inner.unparenthesized
  | expr => expr

/-- The type inside parentheses. -/
def TypeExpr.core : TypeExpr → TypeExpr
  | .parenthesized _ inner => inner.core
  | type => type

end ComponentDocs.Source
