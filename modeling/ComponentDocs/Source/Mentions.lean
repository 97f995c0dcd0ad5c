import ComponentDocs.Source.Tree

/-!
The identifiers that a piece of source mentions.

Mentions are references and names, such as a property after a dot or an
unquoted key, in the order in which the tree is visited. Names that are bound,
such as parameters and type parameters, are not mentioned.
-/

namespace ComponentDocs.Source

mutual

/-- The mentions of a part. -/
def Part.mentions : Part → List String
  | .name text => [text]
  | .expr value => value.mentions
  | .type value => value.mentions
  | .stmt value => value.mentions
  | .param value => value.mentions
  | .member value => value.mentions

/-- The mentions of an expression. -/
def Expr.mentions : Expr → List String
  | .identifier _ name => [name]
  | .string .. | .number .. | .literal .. | .template .. => []
  | .array _ items => mentionsOfParts items
  | .object _ entries => mentionsOfEntries entries
  | .function _ value => value.mentions
  | .classExpr value => value.mentions
  | .member _ object property => object.mentions ++ [property]
  | .element _ object index => object.mentions ++ mentionsOfParts index
  | .assignment _ _ target value => target.mentions ++ value.mentions
  | .parenthesized _ inner => inner.mentions
  | .typed _ inner types => inner.mentions ++ mentionsOfTypes types
  | .assertion _ type inner => type.mentions ++ inner.mentions
  | .instantiation _ inner arguments =>
      inner.mentions ++ mentionsOfTypes arguments
  | .compound _ parts => mentionsOfParts parts

/-- The mentions of an object entry. -/
def Entry.mentions : Entry → List String
  | .property key value => key.mentions ++ value.mentions
  | .spread value => value.mentions

/-- The mentions of a key. -/
def Key.mentions : Key → List String
  | .identifier _ name => [name]
  | .privateName _ => []
  | .literal value => value.mentions
  | .computed value => value.mentions

/-- The mentions of a pattern: its keys and defaults, not what it binds. -/
def Pattern.mentions : Pattern → List String
  | .identifier .. => []
  | .destructuring _ parts => mentionsOfParts parts

/-- The mentions of a parameter. -/
def Param.mentions : Param → List String
  | ⟨decorators, pattern, declaredType, value⟩ =>
      mentionsOfParts decorators ++ pattern.mentions ++
        mentionsOfType? declaredType ++ mentionsOfExpr? value

/-- The mentions of a function body. -/
def Body.mentions : Body → List String
  | .block statements => mentionsOfStmts statements
  | .expression value => value.mentions
  | .absent => []

/-- The mentions of a function. -/
def Function.mentions : Function → List String
  | ⟨_, head, params, rest, result, body⟩ =>
      mentionsOfParts head ++ mentionsOfParams params ++
        mentionsOfParam? rest ++ mentionsOfParts result ++ body.mentions

/-- The mentions of a class. -/
def ClassNode.mentions : ClassNode → List String
  | ⟨_, decorators, _, generics, superClass, superArguments, implemented,
      members⟩ =>
      mentionsOfParts decorators ++ mentionsOfParts generics ++
        mentionsOfExpr? superClass ++ mentionsOfTypes superArguments ++
        mentionsOfParts implemented ++ mentionsOfMembers members

/-- The mentions of a class member. -/
def ClassMember.mentions : ClassMember → List String
  | .field _ decorators key declaredType value =>
      mentionsOfParts decorators ++ key.mentions ++
        mentionsOfType? declaredType ++ mentionsOfExpr? value
  | .other parts => mentionsOfParts parts

/-- The mentions of a type. -/
def TypeExpr.mentions : TypeExpr → List String
  | .reference _ _ name arguments => name ++ mentionsOfTypes arguments
  | .union _ alternatives => mentionsOfTypes alternatives
  | .parenthesized _ inner => inner.mentions
  | .literal _ members => mentionsOfSignatures members
  | .compound _ parts => mentionsOfParts parts

/-- The mentions of a signature. -/
def Signature.mentions : Signature → List String
  | .property _ key _ declaredType => key.mentions ++ mentionsOfType? declaredType
  | .method _ key _ parts => key.mentions ++ mentionsOfParts parts
  | .other parts => mentionsOfParts parts

/-- The mentions of one binding. -/
def Declarator.mentions : Declarator → List String
  | ⟨_, pattern, declaredType, value⟩ =>
      pattern.mentions ++ mentionsOfType? declaredType ++ mentionsOfExpr? value

/-- The mentions of an `extends` entry. -/
def Base.mentions : Base → List String
  | ⟨expression, arguments⟩ =>
      expression.mentions ++ mentionsOfTypes arguments

/-- The mentions of a declaration. -/
def Decl.mentions : Decl → List String
  | .classDecl value => value.mentions
  | .functionDecl _ value => value.mentions
  | .variableDecl _ declarators => mentionsOfDeclarators declarators
  | .interfaceDecl _ _ generics bases members =>
      mentionsOfParts generics ++ mentionsOfBases bases ++
        mentionsOfSignatures members
  | .aliasDecl _ _ generics type => mentionsOfParts generics ++ type.mentions
  | .namespaceDecl _ statements => mentionsOfStmts statements
  | .other _ parts => mentionsOfParts parts

/-- The mentions of a statement. -/
def Stmt.mentions : Stmt → List String
  | .declaration value => value.mentions
  | .exported _ none => []
  | .exported _ (some value) => value.mentions
  | .exportedDefault _ value => value.mentions
  | .expression _ value => value.mentions
  | .other _ parts => mentionsOfParts parts

/-- The mentions of parts, from left to right. -/
def mentionsOfParts : List Part → List String
  | [] => []
  | part :: parts => part.mentions ++ mentionsOfParts parts

/-- The mentions of object entries, from left to right. -/
def mentionsOfEntries : List Entry → List String
  | [] => []
  | entry :: entries => entry.mentions ++ mentionsOfEntries entries

/-- The mentions of parameters, from left to right. -/
def mentionsOfParams : List Param → List String
  | [] => []
  | param :: params => param.mentions ++ mentionsOfParams params

/-- The mentions of a parameter that may be missing. -/
def mentionsOfParam? : Option Param → List String
  | none => []
  | some param => param.mentions

/-- The mentions of an expression that may be missing. -/
def mentionsOfExpr? : Option Expr → List String
  | none => []
  | some value => value.mentions

/-- The mentions of a type that may be missing. -/
def mentionsOfType? : Option TypeExpr → List String
  | none => []
  | some type => type.mentions

/-- The mentions of types, from left to right. -/
def mentionsOfTypes : List TypeExpr → List String
  | [] => []
  | type :: types => type.mentions ++ mentionsOfTypes types

/-- The mentions of class members, from left to right. -/
def mentionsOfMembers : List ClassMember → List String
  | [] => []
  | member :: members => member.mentions ++ mentionsOfMembers members

/-- The mentions of signatures, from left to right. -/
def mentionsOfSignatures : List Signature → List String
  | [] => []
  | signature :: signatures =>
      signature.mentions ++ mentionsOfSignatures signatures

/-- The mentions of bindings, from left to right. -/
def mentionsOfDeclarators : List Declarator → List String
  | [] => []
  | declarator :: declarators =>
      declarator.mentions ++ mentionsOfDeclarators declarators

/-- The mentions of `extends` entries, from left to right. -/
def mentionsOfBases : List Base → List String
  | [] => []
  | base :: bases => base.mentions ++ mentionsOfBases bases

/-- The mentions of statements, from left to right. -/
def mentionsOfStmts : List Stmt → List String
  | [] => []
  | statement :: statements =>
      statement.mentions ++ mentionsOfStmts statements

end

end ComponentDocs.Source
