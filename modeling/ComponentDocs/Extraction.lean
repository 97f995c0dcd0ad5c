import ComponentDocs.DefaultValue
import ComponentDocs.Heritage
import ComponentDocs.Options
import ComponentDocs.Shape

/-!
Finding components, prop shapes and default values in a source file.

Each statement yields findings in order, and the raw document is what they add
up to. Namespaces show their exported statements only, and no shapes.
-/

namespace ComponentDocs

open Source

/-- A remark about a decision, which does not change the document. -/
inductive Note where
  | anonymousClass
  | classifiedClass (name : String) (heritage : Heritage)
  | classifiedFunction (name props : String)
  | undefinedDefault (owner property : String)
  | inheritanceCycle (shape : String)
deriving Repr, DecidableEq

/-- One thing that a statement shows. -/
inductive Finding where
  | component (value : Component)
  | shape (value : PropShape)
  | defaults (values : OrderedMap String String)
  | problem (value : Diagnostic)
  | note (value : Note)
deriving Repr, DecidableEq

/-- Adds a finding to a document. -/
def RawDocument.add (document : RawDocument) : Finding → RawDocument
  | .component value => document.addComponent value
  | .shape value => document.insertShape value
  | .defaults values => document.mergeDefaults values
  | .problem value => document.report value
  | .note _ => document

/-- The document that findings add up to. -/
def RawDocument.ofFindings (findings : List Finding) : RawDocument :=
  findings.foldl RawDocument.add .empty

/-- What extraction works with. -/
structure Extraction where
  file : File
  options : Options
  table : ShapeTable

/-- Where a statement stands. -/
inductive Scope where
  | file
  | inNamespace
deriving Repr, DecidableEq

/-- The base type of a function that takes props. -/
def functionBase : String := "StatelessComponent"

/-- The heritage of a class by convention. -/
def conventionHeritage : Heritage := ⟨some "Component", some "Props"⟩

/-- The heritage of a class with the given names. -/
def Options.classHeritage (options : Options) (names : List String) : Heritage :=
  match options.heritageMode with
  | .resolved => Heritage.ofNames names
  | .convention => if names.isEmpty then ⟨none, none⟩ else conventionHeritage

namespace Extraction

/-- The default values that an initializer gives to its owner. -/
def defaultFindings (source owner : String) (initializer : Expr) :
    List Finding :=
  let defaults := Defaults.read source owner initializer
  defaults.discarded.map (fun name => .note (.undefinedDefault owner name)) ++
    [.defaults defaults.values] ++ defaults.diagnostics.map .problem

/-- The defaults that a class member declares. -/
def memberFindings (source owner : String) : ClassMember → List Finding
  | .field true _ key _ value =>
      if key.staticName? = some "defaultProps" then
        match value with
        | some value => defaultFindings source owner value
        | none =>
            [.problem
              (.malformedDefaults owner none "defaultProps has no initializer")]
      else
        []
  | _ => []

variable (it : Extraction)

/-- What a class shows, with the offset of its statement. -/
def ofClass (anchor : Nat) (value : ClassNode) : List Finding :=
  match value.name with
  | none => [.note .anonymousClass]
  | some name =>
      let heritage := it.options.classHeritage
        (Heritage.namesOfClass it.options.namespaceMarkers value)
      [.note (.classifiedClass name heritage)] ++
        value.members.flatMap (memberFindings it.file.text name) ++
        [.component {
          name := name
          kind := .classBased
          base := heritage.base
          props := heritage.props
          comment := it.file.comment [anchor, value.span.start] }]

/-- The type name of a function's only parameter, if it is a reference. -/
def parameterType? (value : Function) : Option String :=
  match value.params, value.rest with
  | [param], none =>
      match param.declaredType, param.default? with
      | some (.reference _ nameSpan name _), none =>
          match name with
          | [name] => some name
          | _ => some (it.file.textOf nameSpan)
      | _, _ => none
  | _, _ => none

/-- A component that is a function. -/
def functionComponent (name : String) (heritage : Heritage)
    (anchors : List Nat) : Finding :=
  .component {
    name := name
    kind := .functional
    base := heritage.base
    props := heritage.props
    comment := it.file.comment anchors }

/-- What a function declaration shows. -/
def ofFunction (anchor : Nat) (span : Span) (value : Function) : List Finding :=
  match value.name, it.parameterType? value with
  | some name, some props =>
      [it.functionComponent name ⟨some functionBase, some props⟩
        [anchor, span.start]]
  | _, _ => []

/-- The heritage of an annotation whose base makes a component. -/
def componentType? (declaredType : Option TypeExpr) : Option Heritage := do
  let type ← declaredType
  let heritage := Heritage.ofNames
    (Heritage.namesOfType it.options.namespaceMarkers type)
  let base ← heritage.base
  if it.options.isComponentMarker base then some heritage else none

/-- What one binding of a variable declaration shows. -/
def ofDeclarator (anchor start : Nat) (binding : Declarator) : List Finding :=
  let anchors := [anchor, start, binding.span.start]
  match binding.pattern, binding.value with
  | .identifier _ name, some value =>
      match it.componentType? binding.declaredType with
      | some heritage => [it.functionComponent name heritage anchors]
      | none =>
          match value.core with
          | .function _ value =>
              match it.parameterType? value with
              | some props =>
                  [.note (.classifiedFunction name props),
                    it.functionComponent name ⟨some functionBase, some props⟩
                      anchors]
              | none => []
          | _ => []
  | _, _ => []

/-- The shape of a name, as the table has it. -/
def shapeFindings (name : String) (anchors : List Nat) : List Finding :=
  let resolution := resolveShape it.file it.table name
  resolution.repeated.map (fun shape => .note (.inheritanceCycle shape)) ++
    [.shape ⟨name, resolution.members, it.file.comment anchors⟩]

/-- `Owner.defaultProps = …` -/
def ofExpression : Expr → List Finding
  | .assignment _ "=" (.member _ owner "defaultProps") value =>
      let name := match owner with
        | .identifier _ name => name
        | owner => it.file.textOf owner.span
      defaultFindings it.file.text name value
  | _ => []

mutual

/-- What a declaration shows, with the offset of its statement. -/
def ofDecl (scope : Scope) (anchor : Nat) : Decl → List Finding
  | .classDecl value => it.ofClass anchor value
  | .functionDecl span value => it.ofFunction anchor span value
  | .variableDecl span bindings =>
      bindings.flatMap (it.ofDeclarator anchor span.start)
  | .interfaceDecl span name _ _ _ =>
      if scope = .file then it.shapeFindings name [anchor, span.start] else []
  | .aliasDecl _ name _ type =>
      match type with
      | .literal .. =>
          if scope = .file then it.shapeFindings name [anchor] else []
      | _ => []
  | .namespaceDecl _ statements => ofStatements .inNamespace statements
  | .other .. => []

/-- What a statement shows. -/
def ofStatement (scope : Scope) : Stmt → List Finding
  | .exported span (some value) => ofDecl scope span.start value
  | .exported _ none => []
  | .exportedDefault span value => ofDecl scope span.start value
  | .declaration value =>
      if scope = .file then ofDecl scope value.span.start value else []
  | .expression _ value => if scope = .file then it.ofExpression value else []
  | .other .. => []

/-- What statements show, one after the other. -/
def ofStatements (scope : Scope) : List Stmt → List Finding
  | [] => []
  | statement :: statements =>
      ofStatement scope statement ++ ofStatements scope statements

end

end Extraction

/-- The findings of a file, in the order of its statements. -/
def Source.File.findings (file : File) (options : Options) : List Finding :=
  let table := ShapeTable.ofStatements file.statements
  Extraction.ofStatements ⟨file, options, table⟩ .file file.statements

/-- The raw document of a file. -/
def Source.File.rawDocument (file : File) (options : Options) : RawDocument :=
  RawDocument.ofFindings (file.findings options)

end ComponentDocs
