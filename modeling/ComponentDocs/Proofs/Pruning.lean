import ComponentDocs.DefaultValue
import ComponentDocs.Proofs.Spans
import ComponentDocs.Shape
import Mathlib.Data.List.Basic

/-!
Trees from which statements have been taken out.

A pruning goes through the whole tree and leaves out statements, from the bodies
of namespaces and from all other places by rules of their own. The nodes that
stay keep their stretches of source and their names. So what documentation reads
of a type, a key or a signature is the same in the pruned tree, and the same of a
value if all statements outside of namespaces stay.
-/

namespace ComponentDocs.Source

/-- Which statements stay, and where the tree is gone through. -/
structure Pruning where
  /-- Whether a statement in the body of a namespace stays. -/
  inBodies : Stmt → Bool
  /-- Whether a statement in any other place stays. -/
  elsewhere : Stmt → Bool
  /-- Whether the `extends` clauses of classes and the annotations of variables
  are gone through too. -/
  inClauses : Bool

/-- Whether a part stays: only statements are taken out. -/
def Pruning.keeps (cut : Pruning) : Part → Bool
  | .stmt value => cut.elsewhere value
  | _ => true

mutual

/-- A part after a pruning. -/
def Part.pruned (cut : Pruning) : Part → Part
  | .name text => .name text
  | .expr value => .expr (value.pruned cut)
  | .type value => .type (value.pruned cut)
  | .stmt value => .stmt (value.pruned cut)
  | .param value => .param (value.pruned cut)
  | .member value => .member (value.pruned cut)

/-- An expression after a pruning. -/
def Expr.pruned (cut : Pruning) : Expr → Expr
  | .identifier span name => .identifier span name
  | .string span value => .string span value
  | .number span raw name => .number span raw name
  | .literal span name => .literal span name
  | .template span text => .template span text
  | .array span items => .array span (prunedParts cut items)
  | .object span entries => .object span (prunedEntries cut entries)
  | .function span value => .function span (value.pruned cut)
  | .classExpr value => .classExpr (value.pruned cut)
  | .member span object property => .member span (object.pruned cut) property
  | .element span object index =>
      .element span (object.pruned cut) (prunedParts cut index)
  | .assignment span operator target value =>
      .assignment span operator (target.pruned cut) (value.pruned cut)
  | .parenthesized span inner => .parenthesized span (inner.pruned cut)
  | .typed span inner types =>
      .typed span (inner.pruned cut) (prunedTypes cut types)
  | .assertion span type inner =>
      .assertion span (type.pruned cut) (inner.pruned cut)
  | .instantiation span inner arguments =>
      .instantiation span (inner.pruned cut) (prunedTypes cut arguments)
  | .compound span parts => .compound span (prunedParts cut parts)

/-- An object entry after a pruning. -/
def Entry.pruned (cut : Pruning) : Entry → Entry
  | .property key value => .property (key.pruned cut) (value.pruned cut)
  | .spread value => .spread (value.pruned cut)

/-- A key after a pruning. -/
def Key.pruned (cut : Pruning) : Key → Key
  | .identifier span name => .identifier span name
  | .privateName span => .privateName span
  | .literal value => .literal (value.pruned cut)
  | .computed value => .computed (value.pruned cut)

/-- A pattern after a pruning. -/
def Pattern.pruned (cut : Pruning) : Pattern → Pattern
  | .identifier span name => .identifier span name
  | .destructuring span parts => .destructuring span (prunedParts cut parts)

/-- A parameter after a pruning. -/
def Param.pruned (cut : Pruning) : Param → Param
  | ⟨decorators, pattern, declaredType, value⟩ =>
      ⟨prunedParts cut decorators, pattern.pruned cut,
        prunedType? cut declaredType, prunedExpr? cut value⟩

/-- A function body after a pruning. -/
def Body.pruned (cut : Pruning) : Body → Body
  | .block statements => .block (prunedStmts cut statements)
  | .expression value => .expression (value.pruned cut)
  | .absent => .absent

/-- A function after a pruning. -/
def Function.pruned (cut : Pruning) : Function → Function
  | ⟨name, head, params, rest, result, body⟩ =>
      ⟨name, prunedParts cut head, prunedParams cut params,
        prunedParam? cut rest, prunedParts cut result, body.pruned cut⟩

/-- A class after a pruning. -/
def ClassNode.pruned (cut : Pruning) : ClassNode → ClassNode
  | ⟨span, decorators, name, generics, superClass, superArguments, implemented,
      members⟩ =>
      ⟨span, prunedParts cut decorators, name, prunedParts cut generics,
        if cut.inClauses then prunedExpr? cut superClass else superClass,
        if cut.inClauses then prunedTypes cut superArguments
        else superArguments,
        prunedParts cut implemented, prunedMembers cut members⟩

/-- A class member after a pruning. -/
def ClassMember.pruned (cut : Pruning) : ClassMember → ClassMember
  | .field isStatic decorators key declaredType value =>
      .field isStatic (prunedParts cut decorators) (key.pruned cut)
        (prunedType? cut declaredType) (prunedExpr? cut value)
  | .other parts => .other (prunedParts cut parts)

/-- A type after a pruning. -/
def TypeExpr.pruned (cut : Pruning) : TypeExpr → TypeExpr
  | .reference span nameSpan name arguments =>
      .reference span nameSpan name (prunedTypes cut arguments)
  | .union span alternatives => .union span (prunedTypes cut alternatives)
  | .parenthesized span inner => .parenthesized span (inner.pruned cut)
  | .literal span members => .literal span (prunedSignatures cut members)
  | .compound span parts => .compound span (prunedParts cut parts)

/-- A signature after a pruning. -/
def Signature.pruned (cut : Pruning) : Signature → Signature
  | .property span key optional declaredType =>
      .property span (key.pruned cut) optional (prunedType? cut declaredType)
  | .method span key optional parts =>
      .method span (key.pruned cut) optional (prunedParts cut parts)
  | .other parts => .other (prunedParts cut parts)

/-- A binding after a pruning. -/
def Declarator.pruned (cut : Pruning) : Declarator → Declarator
  | ⟨span, pattern, declaredType, value⟩ =>
      ⟨span, pattern.pruned cut,
        if cut.inClauses then prunedType? cut declaredType else declaredType,
        prunedExpr? cut value⟩

/-- An `extends` entry after a pruning. -/
def Base.pruned (cut : Pruning) : Base → Base
  | ⟨expression, arguments⟩ =>
      ⟨expression.pruned cut, prunedTypes cut arguments⟩

/-- A declaration after a pruning. -/
def Decl.pruned (cut : Pruning) : Decl → Decl
  | .classDecl value => .classDecl (value.pruned cut)
  | .functionDecl span value => .functionDecl span (value.pruned cut)
  | .variableDecl span declarators =>
      .variableDecl span (prunedDeclarators cut declarators)
  | .interfaceDecl span name generics bases members =>
      .interfaceDecl span name (prunedParts cut generics)
        (prunedBases cut bases) (prunedSignatures cut members)
  | .aliasDecl span name generics type =>
      .aliasDecl span name (prunedParts cut generics) (type.pruned cut)
  | .namespaceDecl span statements =>
      .namespaceDecl span (prunedBody cut statements)
  | .other span parts => .other span (prunedParts cut parts)

/-- A statement after a pruning. -/
def Stmt.pruned (cut : Pruning) : Stmt → Stmt
  | .declaration value => .declaration (value.pruned cut)
  | .exported span none => .exported span none
  | .exported span (some value) => .exported span (some (value.pruned cut))
  | .exportedDefault span value => .exportedDefault span (value.pruned cut)
  | .expression span value => .expression span (value.pruned cut)
  | .other span parts => .other span (prunedParts cut parts)

/-- The statements of a namespace that stay. -/
def prunedBody (cut : Pruning) : List Stmt → List Stmt
  | [] => []
  | statement :: statements =>
      if cut.inBodies statement then
        statement.pruned cut :: prunedBody cut statements
      else
        prunedBody cut statements

/-- The statements in another place that stay. -/
def prunedStmts (cut : Pruning) : List Stmt → List Stmt
  | [] => []
  | statement :: statements =>
      if cut.elsewhere statement then
        statement.pruned cut :: prunedStmts cut statements
      else
        prunedStmts cut statements

/-- The parts that stay. -/
def prunedParts (cut : Pruning) : List Part → List Part
  | [] => []
  | part :: parts =>
      if cut.keeps part then part.pruned cut :: prunedParts cut parts
      else prunedParts cut parts

/-- Object entries after a pruning. -/
def prunedEntries (cut : Pruning) : List Entry → List Entry
  | [] => []
  | entry :: entries => entry.pruned cut :: prunedEntries cut entries

/-- Parameters after a pruning. -/
def prunedParams (cut : Pruning) : List Param → List Param
  | [] => []
  | param :: params => param.pruned cut :: prunedParams cut params

/-- A parameter that may be missing, after a pruning. -/
def prunedParam? (cut : Pruning) : Option Param → Option Param
  | none => none
  | some param => some (param.pruned cut)

/-- An expression that may be missing, after a pruning. -/
def prunedExpr? (cut : Pruning) : Option Expr → Option Expr
  | none => none
  | some value => some (value.pruned cut)

/-- A type that may be missing, after a pruning. -/
def prunedType? (cut : Pruning) : Option TypeExpr → Option TypeExpr
  | none => none
  | some type => some (type.pruned cut)

/-- Types after a pruning. -/
def prunedTypes (cut : Pruning) : List TypeExpr → List TypeExpr
  | [] => []
  | type :: types => type.pruned cut :: prunedTypes cut types

/-- Class members after a pruning. -/
def prunedMembers (cut : Pruning) : List ClassMember → List ClassMember
  | [] => []
  | member :: members => member.pruned cut :: prunedMembers cut members

/-- Signatures after a pruning. -/
def prunedSignatures (cut : Pruning) : List Signature → List Signature
  | [] => []
  | signature :: signatures =>
      signature.pruned cut :: prunedSignatures cut signatures

/-- Bindings after a pruning. -/
def prunedDeclarators (cut : Pruning) : List Declarator → List Declarator
  | [] => []
  | declarator :: declarators =>
      declarator.pruned cut :: prunedDeclarators cut declarators

/-- `extends` entries after a pruning. -/
def prunedBases (cut : Pruning) : List Base → List Base
  | [] => []
  | base :: bases => base.pruned cut :: prunedBases cut bases

end

/-! ### Lists of nodes -/

/-- Recursion that changes each item of a list is `map`. -/
theorem eq_map_of_cons {α β : Type} {f : List α → List β} {change : α → β}
    (hnil : f [] = []) (hcons : ∀ a rest, f (a :: rest) = change a :: f rest)
    (items : List α) : f items = items.map change := by
  induction items with
  | nil => exact hnil
  | cons a rest ih => rw [hcons, ih, List.map_cons]

section Lists

variable (cut : Pruning)

theorem prunedStmts_eq (statements : List Stmt) :
    prunedStmts cut statements =
      (statements.filter cut.elsewhere).map (Stmt.pruned cut) := by
  induction statements with
  | nil => simp [prunedStmts]
  | cons statement statements ih =>
      simp only [prunedStmts, List.filter_cons, ih]
      split <;> rfl

theorem prunedTypes_eq_map (types : List TypeExpr) :
    prunedTypes cut types = types.map (TypeExpr.pruned cut) :=
  eq_map_of_cons (by simp [prunedTypes])
    (fun _ _ => by simp [prunedTypes]) types

theorem prunedEntries_eq_map (entries : List Entry) :
    prunedEntries cut entries = entries.map (Entry.pruned cut) :=
  eq_map_of_cons (by simp [prunedEntries])
    (fun _ _ => by simp [prunedEntries]) entries

theorem prunedMembers_eq_map (members : List ClassMember) :
    prunedMembers cut members = members.map (ClassMember.pruned cut) :=
  eq_map_of_cons (by simp [prunedMembers])
    (fun _ _ => by simp [prunedMembers]) members

theorem prunedSignatures_eq_map (signatures : List Signature) :
    prunedSignatures cut signatures = signatures.map (Signature.pruned cut) :=
  eq_map_of_cons (by simp [prunedSignatures])
    (fun _ _ => by simp [prunedSignatures]) signatures

theorem prunedDeclarators_eq_map (declarators : List Declarator) :
    prunedDeclarators cut declarators =
      declarators.map (Declarator.pruned cut) :=
  eq_map_of_cons (by simp [prunedDeclarators])
    (fun _ _ => by simp [prunedDeclarators]) declarators

theorem prunedBases_eq_map (bases : List Base) :
    prunedBases cut bases = bases.map (Base.pruned cut) :=
  eq_map_of_cons (by simp [prunedBases])
    (fun _ _ => by simp [prunedBases]) bases

end Lists

/-! ### Stretches and names stay -/

section Nodes

variable (cut : Pruning)

@[simp] theorem ClassNode.span_pruned (value : ClassNode) :
    (value.pruned cut).span = value.span := by
  cases value
  simp [ClassNode.pruned]

@[simp] theorem Expr.span_pruned (value : Expr) :
    (value.pruned cut).span = value.span := by
  cases value <;> simp [Expr.pruned, Expr.span]

@[simp] theorem TypeExpr.span_pruned (type : TypeExpr) :
    (type.pruned cut).span = type.span := by
  cases type <;> simp [TypeExpr.pruned, TypeExpr.span]

@[simp] theorem Decl.span_pruned (value : Decl) :
    (value.pruned cut).span = value.span := by
  cases value <;> simp [Decl.pruned, Decl.span]

@[simp] theorem Stmt.span_pruned (statement : Stmt) :
    (statement.pruned cut).span = statement.span := by
  cases statement with
  | exported span value => cases value <;> simp [Stmt.pruned, Stmt.span]
  | _ => simp [Stmt.pruned, Stmt.span]

@[simp] theorem Key.span_pruned (key : Key) :
    (key.pruned cut).span = key.span := by
  cases key <;> simp [Key.pruned, Key.span]

@[simp] theorem Expr.keyName?_pruned (value : Expr) :
    (value.pruned cut).keyName? = value.keyName? := by
  cases value <;> simp [Expr.pruned, Expr.keyName?]

@[simp] theorem Key.staticName?_pruned (key : Key) :
    (key.pruned cut).staticName? = key.staticName? := by
  cases key <;> simp [Key.pruned, Key.staticName?]

@[simp] theorem Key.plainName?_pruned (key : Key) :
    (key.pruned cut).plainName? = key.plainName? := by
  cases key <;> simp [Key.pruned, Key.plainName?, Key.staticName?]

/-- Parentheses and annotations are gone through in step with the pruning. -/
theorem Expr.core_pruned (value : Expr) :
    (value.pruned cut).core = value.core.pruned cut := by
  fun_induction Expr.core value with
  | case1 span inner ih => simpa only [Expr.pruned, Expr.core] using ih
  | case2 span inner types ih => simpa only [Expr.pruned, Expr.core] using ih
  | case3 span type inner ih => simpa only [Expr.pruned, Expr.core] using ih
  | case4 span inner arguments ih => simpa only [Expr.pruned, Expr.core] using ih
  | case5 value => cases value <;> simp_all [Expr.pruned, Expr.core]

theorem TypeExpr.core_pruned (type : TypeExpr) :
    (type.pruned cut).core = type.core.pruned cut := by
  fun_induction TypeExpr.core type with
  | case1 span inner ih => simpa only [TypeExpr.pruned, TypeExpr.core] using ih
  | case2 type => cases type <;> simp_all [TypeExpr.pruned, TypeExpr.core]

end Nodes

end ComponentDocs.Source

namespace ComponentDocs

open Source

/-! ### Shapes -/

section Shapes

variable (cut : Pruning)

theorem typeTextOf_pruned (file : File) (declaredType : Option TypeExpr) :
    typeTextOf file (prunedType? cut declaredType) =
      typeTextOf file declaredType := by
  cases declaredType with
  | none => simp only [prunedType?]
  | some type =>
      simp only [prunedType?, typeTextOf, TypeExpr.span_pruned,
        TypeExpr.core_pruned]
      cases type.core <;>
        simp [TypeExpr.pruned, prunedTypes_eq_map, Function.comp_def]

theorem memberOf?_pruned (file : File) (signature : Signature) :
    memberOf? file (signature.pruned cut) = memberOf? file signature := by
  cases signature <;>
    simp only [Signature.pruned, memberOf?, Key.plainName?_pruned,
      Key.span_pruned, typeTextOf_pruned]

theorem Source.Base.name?_pruned (base : Base) :
    (base.pruned cut).name? = base.name? := by
  obtain ⟨expression, arguments⟩ := base
  cases expression <;> simp [Base.pruned, Base.name?, Expr.pruned]

/-- What a shape declares itself, after a pruning. -/
def ShapeSource.pruned (cut : Pruning) (source : ShapeSource) : ShapeSource :=
  ⟨prunedSignatures cut source.members, source.bases⟩

theorem ownMembers_pruned (file : File) (source : ShapeSource) :
    ownMembers file (source.pruned cut) = ownMembers file source := by
  simp only [ownMembers, ShapeSource.pruned, prunedSignatures_eq_map,
    List.filterMap_map]
  refine List.filterMap_congr fun signature _ => ?_
  exact memberOf?_pruned cut file signature

/-- A declared shape, after a pruning. -/
def declaredPruned (cut : Pruning) (declared : String × ShapeSource) :
    String × ShapeSource :=
  (declared.1, declared.2.pruned cut)

theorem Source.Decl.shape?_pruned (value : Decl) :
    (value.pruned cut).shape? = value.shape?.map (declaredPruned cut) := by
  cases value with
  | interfaceDecl span name generics bases members =>
      have hbases : (prunedBases cut bases).filterMap Base.name? =
          bases.filterMap Base.name? := by
        rw [prunedBases_eq_map, List.filterMap_map]
        exact List.filterMap_congr fun base _ => Base.name?_pruned cut base
      simp [Decl.pruned, Decl.shape?, hbases, declaredPruned, ShapeSource.pruned]
  | aliasDecl span name generics type =>
      cases type <;> simp [Decl.pruned, TypeExpr.pruned, Decl.shape?,
        declaredPruned, ShapeSource.pruned]
  | _ => simp [Decl.pruned, Decl.shape?]

theorem Source.Stmt.shape?_pruned (statement : Stmt) :
    (statement.pruned cut).shape? =
      statement.shape?.map (declaredPruned cut) := by
  cases statement with
  | declaration value => simp [Stmt.pruned, Stmt.shape?, Decl.shape?_pruned]
  | exported span value =>
      cases value <;> simp [Stmt.pruned, Stmt.shape?, Decl.shape?_pruned]
  | exportedDefault span value =>
      simp [Stmt.pruned, Stmt.shape?, Decl.shape?_pruned]
  | expression span value => simp [Stmt.pruned, Stmt.shape?]
  | other span parts => simp [Stmt.pruned, Stmt.shape?]

end Shapes

/-! ### Default values -/

section Defaults

variable {cut : Pruning}

theorem Source.Expr.literalText?_pruned (value : Expr) :
    (value.pruned cut).literalText? = value.literalText? := by
  cases value <;> simp [Expr.pruned, Expr.literalText?]

/-- The block of a function has as many statements as before. -/
theorem Source.Expr.blockStatements?_pruned
    (hall : ∀ statement, cut.elsewhere statement = true) (value : Expr) :
    (value.pruned cut).blockStatements? =
      value.blockStatements?.map (List.map (Stmt.pruned cut)) := by
  cases value with
  | function span value =>
      obtain ⟨name, head, params, rest, result, body⟩ := value
      cases body with
      | block statements =>
          have hstay : statements.filter cut.elsewhere = statements :=
            List.filter_eq_self.mpr fun statement _ => hall statement
          simp [Expr.pruned, Function.pruned, Body.pruned, Expr.blockStatements?,
            prunedStmts_eq, hstay]
      | expression value =>
          simp [Expr.pruned, Function.pruned, Body.pruned, Expr.blockStatements?]
      | absent =>
          simp [Expr.pruned, Function.pruned, Body.pruned, Expr.blockStatements?]
  | _ => simp [Expr.pruned, Expr.blockStatements?]

theorem statementsText_map_pruned (source : String) (statements : List Stmt) :
    statementsText source (statements.map (Stmt.pruned cut)) =
      statementsText source statements := by
  simp only [statementsText, List.head?_map, List.getLast?_map]
  cases statements.head? <;> cases statements.getLast? <;> simp

theorem valueText_pruned (hall : ∀ statement, cut.elsewhere statement = true)
    (source : String) (value : Expr) :
    valueText source (value.pruned cut) = valueText source value := by
  simp only [valueText, Expr.literalText?_pruned,
    Expr.blockStatements?_pruned hall, Expr.span_pruned]
  cases value.blockStatements? <;> simp [statementsText_map_pruned]

theorem outcome_pruned (hall : ∀ statement, cut.elsewhere statement = true)
    (source : String) (entry : Entry) :
    EntryOutcome.of source (entry.pruned cut) = EntryOutcome.of source entry := by
  cases entry with
  | property key value =>
      simp only [Entry.pruned, EntryOutcome.of, Key.plainName?_pruned,
        valueText_pruned hall]
  | spread value => simp only [Entry.pruned, EntryOutcome.of]

theorem Defaults.read_pruned (hall : ∀ statement, cut.elsewhere statement = true)
    (source owner : String) (initializer : Expr) :
    Defaults.read source owner (initializer.pruned cut) =
      Defaults.read source owner initializer := by
  simp only [Defaults.read, Expr.core_pruned]
  cases initializer.core <;>
    simp [Expr.pruned, prunedEntries_eq_map, Function.comp_def,
      outcome_pruned hall]

end Defaults

end ComponentDocs
