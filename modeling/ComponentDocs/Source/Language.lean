import ComponentDocs.Path

/-!
The language of a source file, told by the extension of its name.
-/

namespace ComponentDocs.Source

/-- What the parser has to expect in a file. -/
structure Language where
  /-- Type annotations and type declarations are part of the language. -/
  typed : Bool
  /-- Markup elements are expressions. -/
  markup : Bool
  /-- The file only describes declarations. -/
  definition : Bool
  /-- The file is a module; otherwise it is a script. -/
  isModule : Bool
deriving Repr, DecidableEq

/-- Whether one of the last two dotted pieces of a stem is `d`. -/
def marksDefinition (stem : List Char) : Bool :=
  ((Text.splitAtChar '.' stem).reverse.take 2).any (fun piece => piece = ['d'])

/--
The language that a path stands for. Files whose extension says nothing are
read as typed source with markup.
-/
def Language.ofPath (path : String) : Language :=
  match Path.fileName? path.toList with
  | none => ⟨true, true, false, true⟩
  | some name =>
      let (stem, extension) := Path.splitExtension name
      match extension.map String.ofList with
      | some "ts" => ⟨true, false, marksDefinition stem, true⟩
      | some "mts" => ⟨true, false, marksDefinition stem, true⟩
      | some "cts" => ⟨true, false, marksDefinition stem, false⟩
      | some "js" => ⟨false, false, false, true⟩
      | some "mjs" => ⟨false, false, false, true⟩
      | some "cjs" => ⟨false, false, false, false⟩
      | some "jsx" => ⟨false, true, false, true⟩
      | _ => ⟨true, true, false, true⟩

end ComponentDocs.Source
