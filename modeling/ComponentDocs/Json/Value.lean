import ComponentDocs.Decimal.Binary64

/-!
Values of the JSON data format. Objects keep the order of their fields.
-/

namespace ComponentDocs

/-- A JSON value. Integers and other numbers are told apart. -/
inductive Json where
  | null
  | bool (value : Bool)
  | integer (value : Int)
  | real (value : Decimal.Binary64)
  | string (value : String)
  | array (items : List Json)
  | object (fields : List (String × Json))
deriving Repr, Inhabited

namespace Json

/-- The value of the last field with the given name. -/
def field? (fields : List (String × Json)) (name : String) : Option Json :=
  (fields.reverse.find? (fun entry => entry.1 = name)).map Prod.snd

/-- The value of a field, where the value is an object that has it. -/
def get? : Json → String → Option Json
  | .object fields, name => field? fields name
  | _, _ => none

/-- The text of a string value. -/
def string? : Json → Option String
  | .string value => some value
  | _ => none

/-- The items of an array. -/
def array? : Json → Option (List Json)
  | .array items => some items
  | _ => none

end Json

end ComponentDocs
