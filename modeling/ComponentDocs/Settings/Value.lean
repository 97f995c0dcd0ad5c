import ComponentDocs.Json.Value
import ComponentDocs.Text.Blank
import ComponentDocs.Text.Quoted

/-!
Settings from layered sources.

Every setting remembers where it comes from, so that an error can name the
place. Tables of two layers are merged; any other setting is replaced as a
whole.
-/

namespace ComponentDocs

/-- Where a setting comes from. -/
inductive Origin where
  /-- A file, by its path and the name of its format. -/
  | file (path format : String)
  | environment
deriving Repr, DecidableEq

/-- A setting without parts. -/
inductive Scalar where
  | unit
  | bool (value : Bool)
  | unsigned (value : Nat)
  | signed (value : Int)
  | float (value : Decimal.Binary64)
  | character (value : Char)
  | text (value : String)
deriving Repr

/-- A setting with its origin. -/
inductive Setting where
  | scalar (origin : Origin) (value : Scalar)
  | list (origin : Origin) (items : List Setting)
  | table (origin : Origin) (fields : List (String × Setting))

namespace Setting

/-- The origin of a setting. -/
def origin : Setting → Origin
  | .scalar origin _ => origin
  | .list origin _ => origin
  | .table origin _ => origin

/-- A setting as it is named in a message. -/
def found : Setting → String
  | .scalar _ .unit => "unit"
  | .scalar _ (.bool value) => "bool " ++ (if value then "true" else "false")
  | .scalar _ (.unsigned value) => "unsigned int `" ++ toString value ++ "`"
  | .scalar _ (.signed value) => "signed int `" ++ toString value ++ "`"
  | .scalar _ (.float value) => "float `" ++ value.positional ++ "`"
  | .scalar _ (.character value) => "string " ++ Text.quoted value.toString
  | .scalar _ (.text value) => "string " ++ Text.quoted value
  | .list .. => "sequence"
  | .table .. => "map"

/-! ### Fields -/

/-- The setting under a name. -/
def field? (fields : List (String × Setting)) (name : String) : Option Setting :=
  (fields.find? (fun entry => entry.1 = name)).map Prod.snd

/-- Sets the setting under a name. -/
def setField (fields : List (String × Setting)) (name : String)
    (value : Setting) : List (String × Setting) :=
  match fields with
  | [] => [(name, value)]
  | entry :: rest =>
      if entry.1 = name then (name, value) :: rest
      else entry :: setField rest name value

/-- The field whose name comes first in the order of code points. -/
def firstField? (fields : List (String × Setting)) :
    Option (String × Setting) :=
  fields.foldl
    (fun best entry =>
      match best with
      | none => some entry
      | some other => if entry.1 < other.1 then some entry else some other)
    none

mutual

/-- A layer above another: tables are merged, all else is replaced. -/
def merge (below : Setting) : Setting → Setting
  | .table origin fields =>
      match below with
      | .table _ others => .table origin (mergeFields others fields)
      | _ => .table origin fields
  | above => above

/-- The fields of one table above those of another. -/
def mergeFields (below : List (String × Setting)) :
    List (String × Setting) → List (String × Setting)
  | [] => below
  | (name, above) :: fields =>
      let value := match field? below name with
        | some other => merge other above
        | none => above
      mergeFields (setField below name value) fields

end

/-! ### Settings from data formats -/

mutual

/-- A JSON value as a setting; integers are signed if `signed` says so. -/
def ofJson (origin : Origin) (signed : Bool) : Json → Setting
  | .null => .scalar origin .unit
  | .bool value => .scalar origin (.bool value)
  | .integer (.ofNat value) =>
      .scalar origin (if signed then .signed value else .unsigned value)
  | .integer value => .scalar origin (.signed value)
  | .real value => .scalar origin (.float value)
  | .string value => .scalar origin (.text value)
  | .array items => .list origin (ofItems origin signed items)
  | .object fields => .table origin (ofFields origin signed [] fields)

/-- Items as settings. -/
def ofItems (origin : Origin) (signed : Bool) : List Json → List Setting
  | [] => []
  | item :: items => ofJson origin signed item :: ofItems origin signed items

/-- Fields as settings; a later field replaces an earlier one of its name. -/
def ofFields (origin : Origin) (signed : Bool)
    (done : List (String × Setting)) :
    List (String × Json) → List (String × Setting)
  | [] => done
  | (name, value) :: fields =>
      ofFields origin signed (setField done name (ofJson origin signed value))
        fields

end

end Setting

/-! ### Errors -/

/-- Why a setting cannot be used. -/
inductive SettingProblem where
  | kind (found expected : String)
  | unknownWord (found : String) (words : List String)
deriving Repr, DecidableEq

/-- A setting that cannot be used: its path, its origin and the reason. -/
structure SettingError where
  problem : SettingProblem
  path : List String
  origin : Origin
deriving Repr, DecidableEq

/-- The text of a problem. -/
def SettingProblem.message : SettingProblem → String
  | .kind found expected =>
      "invalid type: found " ++ found ++ ", expected " ++ expected
  | .unknownWord word words =>
      "unknown variant: found `" ++ word ++ "`, expected `" ++
        String.intercalate " or " (words.map fun word => "`" ++ word ++ "`") ++
        "`"

/-- The key of a setting as its source spells it. -/
def Origin.key (path : List String) : Origin → String
  | .file .. => String.intercalate "." ("default" :: path)
  | .environment => String.intercalate "." (path.map Text.upperAscii)

/-- A source as it is named in a message. -/
def Origin.place : Origin → String
  | .file path format => path ++ " " ++ format ++ " file"
  | .environment => "`PROPDOC_` environment variable(s)"

/-- The text of an error. -/
def SettingError.message (error : SettingError) : String :=
  error.problem.message ++ " for key " ++
    Text.quoted (error.origin.key error.path) ++ " in " ++ error.origin.place

end ComponentDocs
