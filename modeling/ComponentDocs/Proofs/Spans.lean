import ComponentDocs.Source.Tree

/-!
The stretches of source that the nodes of a tree cover.

They are listed for every node, also for those that documentation is never read
from, in the order in which the tree is visited.
-/

namespace ComponentDocs.Source

mutual

/-- The stretches that the nodes of a part cover. -/
def Part.spans : Part → List Span
  | .name _ => []
  | .expr value => value.spans
  | .type value => value.spans
  | .stmt value => value.spans
  | .param value => value.spans
  | .member value => value.spans

/-- The stretches that the nodes of an expression cover. -/
def Expr.spans : Expr → List Span
  | .identifier span _ => [span]
  | .string span _ => [span]
  | .number span _ _ => [span]
  | .literal span _ => [span]
  | .template span _ => [span]
  | .array span items => span :: spansOfParts items
  | .object span entries => span :: spansOfEntries entries
  | .function span value => span :: value.spans
  | .classExpr value => value.spans
  | .member span object _ => span :: object.spans
  | .element span object index => span :: object.spans ++ spansOfParts index
  | .assignment span _ target value => span :: target.spans ++ value.spans
  | .parenthesized span inner => span :: inner.spans
  | .typed span inner types => span :: inner.spans ++ spansOfTypes types
  | .assertion span type inner => span :: type.spans ++ inner.spans
  | .instantiation span inner arguments =>
      span :: inner.spans ++ spansOfTypes arguments
  | .compound span parts => span :: spansOfParts parts

/-- The stretches that the nodes of an object entry cover. -/
def Entry.spans : Entry → List Span
  | .property key value => key.spans ++ value.spans
  | .spread value => value.spans

/-- The stretches that the nodes of a key cover. -/
def Key.spans : Key → List Span
  | .identifier span _ => [span]
  | .privateName span => [span]
  | .literal value => value.spans
  | .computed value => value.spans

/-- The stretches that the nodes of a pattern cover. -/
def Pattern.spans : Pattern → List Span
  | .identifier span _ => [span]
  | .destructuring span parts => span :: spansOfParts parts

/-- The stretches that the nodes of a parameter cover. -/
def Param.spans : Param → List Span
  | ⟨decorators, pattern, declaredType, value⟩ =>
      spansOfParts decorators ++ pattern.spans ++ spansOfType? declaredType ++
        spansOfExpr? value

/-- The stretches that the nodes of a function body cover. -/
def Body.spans : Body → List Span
  | .block statements => spansOfStmts statements
  | .expression value => value.spans
  | .absent => []

/-- The stretches that the nodes of a function cover. -/
def Function.spans : Function → List Span
  | ⟨_, head, params, rest, result, body⟩ =>
      spansOfParts head ++ spansOfParams params ++ spansOfParam? rest ++
        spansOfParts result ++ body.spans

/-- The stretches that a class and its nodes cover. -/
def ClassNode.spans : ClassNode → List Span
  | ⟨span, decorators, _, generics, superClass, superArguments, implemented,
      members⟩ =>
      span :: spansOfParts decorators ++ spansOfParts generics ++
        spansOfExpr? superClass ++ spansOfTypes superArguments ++
        spansOfParts implemented ++ spansOfMembers members

/-- The stretches that the nodes of a class member cover. -/
def ClassMember.spans : ClassMember → List Span
  | .field _ decorators key declaredType value =>
      spansOfParts decorators ++ key.spans ++ spansOfType? declaredType ++
        spansOfExpr? value
  | .other parts => spansOfParts parts

/-- The stretches that the nodes of a type cover. -/
def TypeExpr.spans : TypeExpr → List Span
  | .reference span nameSpan _ arguments =>
      span :: nameSpan :: spansOfTypes arguments
  | .union span alternatives => span :: spansOfTypes alternatives
  | .parenthesized span inner => span :: inner.spans
  | .literal span members => span :: spansOfSignatures members
  | .compound span parts => span :: spansOfParts parts

/-- The stretches that the nodes of a signature cover. -/
def Signature.spans : Signature → List Span
  | .property span key _ declaredType =>
      span :: key.spans ++ spansOfType? declaredType
  | .method span key _ parts => span :: key.spans ++ spansOfParts parts
  | .other parts => spansOfParts parts

/-- The stretches that a binding and its nodes cover. -/
def Declarator.spans : Declarator → List Span
  | ⟨span, pattern, declaredType, value⟩ =>
      span :: pattern.spans ++ spansOfType? declaredType ++ spansOfExpr? value

/-- The stretches that the nodes of an `extends` entry cover. -/
def Base.spans : Base → List Span
  | ⟨expression, arguments⟩ => expression.spans ++ spansOfTypes arguments

/-- The stretches that the nodes of a declaration cover. -/
def Decl.spans : Decl → List Span
  | .classDecl value => value.spans
  | .functionDecl span value => span :: value.spans
  | .variableDecl span declarators => span :: spansOfDeclarators declarators
  | .interfaceDecl span _ generics bases members =>
      span :: spansOfParts generics ++ spansOfBases bases ++
        spansOfSignatures members
  | .aliasDecl span _ generics type =>
      span :: spansOfParts generics ++ type.spans
  | .namespaceDecl span statements => span :: spansOfStmts statements
  | .other span parts => span :: spansOfParts parts

/-- The stretches that the nodes of a statement cover. -/
def Stmt.spans : Stmt → List Span
  | .declaration value => value.spans
  | .exported span none => [span]
  | .exported span (some value) => span :: value.spans
  | .exportedDefault span value => span :: value.spans
  | .expression span value => span :: value.spans
  | .other span parts => span :: spansOfParts parts

/-- The stretches of parts, from left to right. -/
def spansOfParts : List Part → List Span
  | [] => []
  | part :: parts => part.spans ++ spansOfParts parts

/-- The stretches of object entries, from left to right. -/
def spansOfEntries : List Entry → List Span
  | [] => []
  | entry :: entries => entry.spans ++ spansOfEntries entries

/-- The stretches of parameters, from left to right. -/
def spansOfParams : List Param → List Span
  | [] => []
  | param :: params => param.spans ++ spansOfParams params

/-- The stretches of a parameter that may be missing. -/
def spansOfParam? : Option Param → List Span
  | none => []
  | some param => param.spans

/-- The stretches of an expression that may be missing. -/
def spansOfExpr? : Option Expr → List Span
  | none => []
  | some value => value.spans

/-- The stretches of a type that may be missing. -/
def spansOfType? : Option TypeExpr → List Span
  | none => []
  | some type => type.spans

/-- The stretches of types, from left to right. -/
def spansOfTypes : List TypeExpr → List Span
  | [] => []
  | type :: types => type.spans ++ spansOfTypes types

/-- The stretches of class members, from left to right. -/
def spansOfMembers : List ClassMember → List Span
  | [] => []
  | member :: members => member.spans ++ spansOfMembers members

/-- The stretches of signatures, from left to right. -/
def spansOfSignatures : List Signature → List Span
  | [] => []
  | signature :: signatures => signature.spans ++ spansOfSignatures signatures

/-- The stretches of bindings, from left to right. -/
def spansOfDeclarators : List Declarator → List Span
  | [] => []
  | declarator :: declarators =>
      declarator.spans ++ spansOfDeclarators declarators

/-- The stretches of `extends` entries, from left to right. -/
def spansOfBases : List Base → List Span
  | [] => []
  | base :: bases => base.spans ++ spansOfBases bases

/-- The stretches of statements, from left to right. -/
def spansOfStmts : List Stmt → List Span
  | [] => []
  | statement :: statements => statement.spans ++ spansOfStmts statements

end

/-! ### A node among the stretches that it holds -/

theorem ClassNode.span_mem_spans (value : ClassNode) :
    value.span ∈ value.spans := by
  cases value
  simp [ClassNode.spans]

theorem Expr.span_mem_spans (value : Expr) : value.span ∈ value.spans := by
  cases value <;> simp [Expr.span, Expr.spans, ClassNode.span_mem_spans]

theorem TypeExpr.span_mem_spans (type : TypeExpr) : type.span ∈ type.spans := by
  cases type <;> simp [TypeExpr.span, TypeExpr.spans]

theorem Decl.span_mem_spans (value : Decl) : value.span ∈ value.spans := by
  cases value <;> simp [Decl.span, Decl.spans, ClassNode.span_mem_spans]

theorem Stmt.span_mem_spans (statement : Stmt) :
    statement.span ∈ statement.spans := by
  cases statement with
  | declaration value =>
      simpa [Stmt.span, Stmt.spans] using value.span_mem_spans
  | exported span value => cases value <;> simp [Stmt.span, Stmt.spans]
  | exportedDefault span value => simp [Stmt.span, Stmt.spans]
  | expression span value => simp [Stmt.span, Stmt.spans]
  | other span parts => simp [Stmt.span, Stmt.spans]

/-! ### A node inside a list of nodes -/

theorem TypeExpr.spans_subset {type : TypeExpr} {types : List TypeExpr}
    (hmem : type ∈ types) : type.spans ⊆ spansOfTypes types := by
  induction hmem with
  | head types => simp [spansOfTypes]
  | tail other _ ih => exact List.Subset.trans ih (by simp [spansOfTypes])

theorem Entry.spans_subset {entry : Entry} {entries : List Entry}
    (hmem : entry ∈ entries) : entry.spans ⊆ spansOfEntries entries := by
  induction hmem with
  | head entries => simp [spansOfEntries]
  | tail other _ ih => exact List.Subset.trans ih (by simp [spansOfEntries])

theorem ClassMember.spans_subset {member : ClassMember} {members : List ClassMember}
    (hmem : member ∈ members) : member.spans ⊆ spansOfMembers members := by
  induction hmem with
  | head members => simp [spansOfMembers]
  | tail other _ ih => exact List.Subset.trans ih (by simp [spansOfMembers])

theorem Signature.spans_subset {signature : Signature} {signatures : List Signature}
    (hmem : signature ∈ signatures) : signature.spans ⊆ spansOfSignatures signatures := by
  induction hmem with
  | head signatures => simp [spansOfSignatures]
  | tail other _ ih => exact List.Subset.trans ih (by simp [spansOfSignatures])

theorem Declarator.spans_subset {declarator : Declarator} {declarators : List Declarator}
    (hmem : declarator ∈ declarators) : declarator.spans ⊆ spansOfDeclarators declarators := by
  induction hmem with
  | head declarators => simp [spansOfDeclarators]
  | tail other _ ih => exact List.Subset.trans ih (by simp [spansOfDeclarators])

theorem Stmt.spans_subset {statement : Stmt} {statements : List Stmt}
    (hmem : statement ∈ statements) : statement.spans ⊆ spansOfStmts statements := by
  induction hmem with
  | head statements => simp [spansOfStmts]
  | tail other _ ih => exact List.Subset.trans ih (by simp [spansOfStmts])

/-- What stands inside parentheses and annotations is part of the whole. -/
theorem Expr.core_spans_subset (value : Expr) :
    value.core.spans ⊆ value.spans := by
  fun_induction Expr.core value with
  | case1 span inner ih =>
      simp only [Expr.spans]
      exact List.Subset.trans ih (List.subset_cons_self span _)
  | case2 span inner types ih =>
      simp only [Expr.spans]
      exact List.Subset.trans ih (by simp)
  | case3 span type inner ih =>
      simp only [Expr.spans]
      exact List.Subset.trans ih (by simp)
  | case4 span inner arguments ih =>
      simp only [Expr.spans]
      exact List.Subset.trans ih (by simp)
  | case5 => exact List.Subset.refl _

theorem TypeExpr.core_spans_subset (type : TypeExpr) :
    type.core.spans ⊆ type.spans := by
  fun_induction TypeExpr.core type with
  | case1 span inner ih =>
      simp only [TypeExpr.spans]
      exact List.Subset.trans ih (List.subset_cons_self span _)
  | case2 => exact List.Subset.refl _

end ComponentDocs.Source
