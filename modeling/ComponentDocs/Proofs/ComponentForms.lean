import ComponentDocs.Generation
import ComponentDocs.Proofs.Findings

/-!
Three ways to write a component, and the prop shape that each of them names.

A function names its parameter's type as one reference. A class and an annotated
variable list all identifiers of their clause instead and take the one behind
the base, which is the first identifier that the type mentions. The three agree
on a reference with an undotted name; on other types they may differ.
-/

namespace ComponentDocs

open Source

/-- The prop shapes that the components of a single statement name. -/
def namedShapes (options : Options) (text : String) (docs : OrderedMap Nat Span)
    (statement : Stmt) : List (Option String) :=
  ((⟨text, [statement], docs⟩ : File).rawDocument options).components.map
    Component.props

/-- Default markers and resolved names, whatever is said of the output. -/
def formOptions (variant : OutputVariant) (sets : Bool) : Options :=
  { Options.default with outputVariant := variant, includeValueSets := sets }

/-- `Name extends React.Component<props, others…>`, as a class with members. -/
def classForm (span base owner : Span) (name : String) (props : TypeExpr)
    (others : List TypeExpr) (members : List ClassMember) : ClassNode where
  span := span
  decorators := []
  name := some name
  generics := []
  superClass := some (.member base (.identifier owner "React") "Component")
  superArguments := props :: others
  implemented := []
  members := members

/-- `name: React.FC<props> = value`, as a binding. -/
def annotatedForm (binding pattern type typeName : Span) (name : String)
    (props : TypeExpr) (value : Expr) : Declarator where
  span := binding
  pattern := .identifier pattern name
  declaredType := some (.reference type typeName ["React", "FC"] [props])
  value := some value

/-- `name = (parameter: props) => …`, as a binding. -/
def functionForm (binding pattern value inner : Span) (name parameter : String)
    (props : TypeExpr) (head result : List Part) (body : Body) :
    Declarator where
  span := binding
  pattern := .identifier pattern name
  declaredType := none
  value := some (.function value
    { name := none
      head := head
      params := [⟨[], .identifier inner parameter, some props, none⟩]
      rest := none
      result := result
      body := body })

section Forms

variable (variant : OutputVariant) (sets : Bool) (text : String)
variable (docs : OrderedMap Nat Span) (name parameter : String)
variable (props : TypeExpr)

theorem namedShapes_eq (options : Options) (statement : Stmt) :
    namedShapes options text docs statement =
      ((Extraction.ofStatement
        ⟨⟨text, [statement], docs⟩, options, ShapeTable.ofStatements [statement]⟩
        .file statement).filterMap Finding.component?).map Component.props := by
  simp [namedShapes, File.rawDocument, RawDocument.components_ofFindings,
    File.findings, Extraction.ofStatements_eq_flatMap]

theorem namesOfClass_classForm (span base owner : Span)
    (others : List TypeExpr) (members : List ClassMember) :
    Heritage.namesOfClass (formOptions variant sets).namespaceMarkers
        (classForm span base owner name props others members) =
      "React.Component" :: (props.mentions ++ mentionsOfTypes others) := by
  simp [Heritage.namesOfClass, classForm, Expr.mentions, mentionsOfTypes,
    Heritage.normalize, formOptions, Options.default]

/-- A class names the first identifier behind its base. -/
theorem namedShapes_classForm (span base owner : Span)
    (others : List TypeExpr) (members : List ClassMember) :
    namedShapes (formOptions variant sets) text docs (.declaration (.classDecl
        (classForm span base owner name props others members))) =
      [(props.mentions ++ mentionsOfTypes others).head?] := by
  have hresolved : ∀ names, (formOptions variant sets).classHeritage names =
      Heritage.ofNames names := fun _ => rfl
  rw [namedShapes_eq]
  simp only [Extraction.ofStatement, ↓reduceIte, Extraction.ofDecl]
  rw [Extraction.ofClass_components _ (show (classForm span base owner name
    props others members).name = some name from rfl)]
  simp only [List.map_cons, List.map_nil, hresolved, namesOfClass_classForm]
  simp [Heritage.ofNames, List.head?_eq_getElem?]

theorem namesOfType_annotatedForm (type typeName : Span) :
    Heritage.namesOfType (formOptions variant sets).namespaceMarkers
        (.reference type typeName ["React", "FC"] [props]) =
      "React.FC" :: props.mentions := by
  simp [Heritage.namesOfType, TypeExpr.mentions, mentionsOfTypes,
    Heritage.normalize, formOptions, Options.default]

theorem componentType?_annotatedForm (it : Extraction)
    (hoptions : it.options = formOptions variant sets) (type typeName : Span) :
    it.componentType? (some (.reference type typeName ["React", "FC"] [props])) =
      some ⟨some "React.FC", props.mentions.head?⟩ := by
  have hmarker : (formOptions variant sets).isComponentMarker "React.FC" = true := by
    simp [formOptions, Options.isComponentMarker, Options.default]
  simp [Extraction.componentType?, hoptions, namesOfType_annotatedForm,
    Heritage.ofNames, hmarker, List.head?_eq_getElem?]

/-- An annotation names the first identifier behind its base. -/
theorem namedShapes_annotatedForm
    (span binding pattern type typeName : Span) (value : Expr) :
    namedShapes (formOptions variant sets) text docs
        (.declaration (.variableDecl span
          [annotatedForm binding pattern type typeName name props value])) =
      [props.mentions.head?] := by
  rw [namedShapes_eq]
  simp only [Extraction.ofStatement, ↓reduceIte, Extraction.ofDecl,
    List.flatMap_cons, List.flatMap_nil, List.append_nil,
    Extraction.ofDeclarator, annotatedForm]
  rw [componentType?_annotatedForm variant sets props _ rfl]
  rfl

/-- The shapes that the type of a single parameter names. -/
def parameterShapes (text : String) : TypeExpr → List (Option String)
  | .reference _ _ [name] _ => [some name]
  | .reference _ nameSpan _ _ => [some (Text.textAt text nameSpan)]
  | _ => []

/-- A function names a type reference as it is written, and no other type. -/
theorem namedShapes_functionForm (span binding pattern value inner : Span)
    (head result : List Part) (body : Body) :
    namedShapes (formOptions variant sets) text docs
        (.declaration (.variableDecl span [functionForm binding pattern value
          inner name parameter props head result body])) =
      parameterShapes text props := by
  rw [namedShapes_eq]
  simp only [Extraction.ofStatement, ↓reduceIte, Extraction.ofDecl,
    List.flatMap_cons, List.flatMap_nil, List.append_nil,
    Extraction.ofDeclarator, functionForm, Extraction.componentType?,
    Extraction.parameterType?, Expr.core]
  cases props with
  | reference outer nameSpan path arguments =>
      match path with
      | [] => rfl
      | [only] => rfl
      | first :: second :: rest => rfl
  | union outer alternatives => rfl
  | parenthesized outer inner => rfl
  | literal outer members => rfl
  | compound outer parts => rfl

end Forms

/--
What the three forms of a component name, wherever their nodes stand. A type
reference with an undotted name is named by all three, without its arguments. A
dotted name is written out by the function, while class and annotation take its
first part. Any other type makes the function no component; class and annotation
name the first identifier that is mentioned in it, the class also one that is
mentioned in a further argument.
-/
theorem component_forms_name_first_mention (variant : OutputVariant)
    (sets : Bool) (text : String) (docs : OrderedMap Nat Span)
    (place : Nat → Span) (name parameter : String) (props : TypeExpr)
    (others : List TypeExpr) (value : Expr) (head result : List Part)
    (body : Body) :
    let shapes := namedShapes (formOptions variant sets) text docs
    let classShapes := shapes (.declaration (.classDecl
      (classForm (place 0) (place 1) (place 2) name props others [])))
    let annotatedShapes := shapes (.declaration (.variableDecl (place 3)
      [annotatedForm (place 4) (place 5) (place 6) (place 7) name props value]))
    let functionShapes := shapes (.declaration (.variableDecl (place 8)
      [functionForm (place 9) (place 10) (place 11) (place 12) name parameter
        props head result body]))
    (∀ outer nameSpan only arguments,
      props = .reference outer nameSpan [only] arguments →
        classShapes = [some only] ∧ annotatedShapes = [some only] ∧
          functionShapes = [some only]) ∧
    (∀ outer nameSpan first second rest arguments,
      props = .reference outer nameSpan (first :: second :: rest) arguments →
        classShapes = [some first] ∧ annotatedShapes = [some first] ∧
          functionShapes = [some (Text.textAt text nameSpan)]) ∧
    ((∀ outer nameSpan names arguments,
      props ≠ .reference outer nameSpan names arguments) →
        classShapes = [(props.mentions ++ mentionsOfTypes others).head?] ∧
          annotatedShapes = [props.mentions.head?] ∧ functionShapes = []) := by
  intro shapes classShapes annotatedShapes functionShapes
  have hclass : classShapes =
      [(props.mentions ++ mentionsOfTypes others).head?] :=
    namedShapes_classForm variant sets text docs name props _ _ _ others []
  have hannotated : annotatedShapes = [props.mentions.head?] :=
    namedShapes_annotatedForm variant sets text docs name props _ _ _ _ _ value
  have hfunction : functionShapes = parameterShapes text props :=
    namedShapes_functionForm variant sets text docs name parameter props _ _ _ _
      _ head result body
  rw [hclass, hannotated, hfunction]
  refine ⟨?_, ?_, ?_⟩
  · rintro outer nameSpan only arguments rfl
    simp [TypeExpr.mentions, parameterShapes]
  · rintro outer nameSpan first second rest arguments rfl
    simp [TypeExpr.mentions, parameterShapes]
  · intro hother
    refine ⟨rfl, rfl, ?_⟩
    cases props with
    | reference outer nameSpan names arguments =>
        exact absurd rfl (hother outer nameSpan names arguments)
    | union outer alternatives => rfl
    | parenthesized outer inner => rfl
    | literal outer members => rfl
    | compound outer parts => rfl

/-- The clauses at a plain name, at a dotted one and at an object type. -/
theorem component_forms_of_written_types :
    let nowhere : Span := ⟨0, 0⟩
    let shapes := namedShapes Options.default "N.P" .empty
    let classShapes := fun props => shapes (.declaration (.classDecl
      (classForm nowhere nowhere nowhere "C" props [] [])))
    let functionShapes := fun props => shapes (.declaration
      (.variableDecl nowhere [functionForm nowhere nowhere nowhere nowhere "C" "p"
        props [] [] .absent]))
    classShapes (.reference nowhere nowhere ["P"] []) = [some "P"] ∧
    functionShapes (.reference nowhere nowhere ["P"] []) = [some "P"] ∧
    classShapes (.reference nowhere ⟨0, 3⟩ ["N", "P"] []) = [some "N"] ∧
    functionShapes (.reference nowhere ⟨0, 3⟩ ["N", "P"] []) = [some "N.P"] ∧
    classShapes (.literal nowhere
      [.property nowhere (.identifier nowhere "a") false none]) = [some "a"] ∧
    functionShapes (.literal nowhere
      [.property nowhere (.identifier nowhere "a") false none]) = [] := by
  intro nowhere shapes classShapes functionShapes
  have hforms := fun props => component_forms_name_first_mention .named false
    "N.P" .empty (fun _ => nowhere) "C" "p" props [] (.compound nowhere []) [] []
    .absent
  have hplain := (hforms (.reference nowhere nowhere ["P"] [])).1 _ _ _ _ rfl
  have hdotted := (hforms (.reference nowhere ⟨0, 3⟩ ["N", "P"] [])).2.1
    _ _ _ _ _ _ rfl
  have hliteral := (hforms (.literal nowhere
    [.property nowhere (.identifier nowhere "a") false none])).2.2 (by simp)
  have htext : Text.textAt "N.P" ⟨0, 3⟩ = "N.P" := by decide +kernel
  rw [htext] at hdotted
  exact ⟨hplain.1, hplain.2.2, hdotted.1, hdotted.2.2, hliteral.1, hliteral.2.2⟩

/-- The prop shapes that the components of a source text name. -/
def shapesNamedIn (text : String) : Option (List (Option String)) :=
  (extract Options.default "C.tsx" text).toOption.map fun raw =>
    raw.components.map Component.props

/-- The three forms do not agree on a dotted name, nor on an object type. -/
theorem component_forms_disagree :
    shapesNamedIn "class C extends React.Component<N.P> \x7b\x7d" =
      some [some "N"] ∧
    shapesNamedIn "const C: React.FC<N.P> = f" = some [some "N"] ∧
    shapesNamedIn "const C = (p: N.P) => f" = some [some "N.P"] ∧
    shapesNamedIn "class C extends React.Component<\x7ba: 1\x7d> \x7b\x7d" =
      some [some "a"] ∧
    shapesNamedIn "const C: React.FC<\x7ba: 1\x7d> = f" = some [some "a"] ∧
    shapesNamedIn "const C = (p: \x7ba: 1\x7d) => f" = some [] := by
  decide +kernel

end ComponentDocs
