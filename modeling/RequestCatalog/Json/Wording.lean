import RequestCatalog.Json
import RequestCatalog.Decimal.Shortest
import RequestCatalog.Text.Quoted

/-! # Values in messages

  A message names the value that it is about. A text stands as it is; inside a list or an
  object it is quoted. Some messages name the type of a value alone.
-/

namespace RequestCatalog

namespace Json

/-- The name of the type of a value. -/
def typeName : Json → String
  | .null => "NoneType"
  | .bool _ => "bool"
  | .int _ => "int"
  | .real _ => "float"
  | .text _ => "str"
  | .list _ => "list"
  | .object _ => "dict"

mutual

/-- A value inside another one. -/
def inner : Json → String
  | .null => "None"
  | .bool b => if b then "True" else "False"
  | .int n => toString n
  | .real x => Shortest.render x
  | .text t => Quoted.render t
  | .list items => "[" ++ ", ".intercalate (innerItems items) ++ "]"
  | .object members => "\x7b" ++ ", ".intercalate (innerMembers members) ++ "\x7d"

/-- The items of a list. -/
def innerItems : List Json → List String
  | [] => []
  | j :: rest => j.inner :: innerItems rest

/-- The members of an object. -/
def innerMembers : List (Text × Json) → List String
  | [] => []
  | (name, j) :: rest => (Quoted.render name ++ ": " ++ j.inner) :: innerMembers rest

end

/-- A value in a message. -/
def wording : Json → String
  | .text t => t.repaired
  | j => j.inner

end Json

end RequestCatalog
