import RequestCatalog.Json.Mapping
import RequestCatalog.Record.Query

/-! # Faults

  Why an operation on the catalogue fails, and the wording of each cause. Three
  causes belong to the catalogue itself and carry a status and a code for callers:
  a record that is not there, folders that lie inside each other, and a record that
  would point into another workspace.
-/

namespace RequestCatalog

/-- Why an operation fails. -/
inductive Fault where
  /-- No record of this kind has the value that was looked up. -/
  | notFound (k : Kind) (value : Json)
  /-- The folders above this one, or this one's new parent, lead back to it. -/
  | folderCycle (id : String)
  /-- The folder belongs to another workspace than the one named. -/
  | workspaceMismatch (id workspaceId : String)
  /-- The tables refuse a change. -/
  | violation (v : Violation)
  /-- A write names an origin that does not exist. The write itself took effect. -/
  | unknownSource (name : String)
  /-- A free-form column holds a value that cannot be read as settings or entries. -/
  | misfit (m : Json.Misfit)
  /-- A request without a priority has no place behind which a copy could go. -/
  | noPriority
  /-- Records of this kind have no column of this name. -/
  | unknownColumn (k : Kind) (column : String)
  /-- The tables cannot take a value, to keep it. -/
  | unfit (u : Unfit)
  /-- The tables cannot take a value, to seek it. -/
  | unseekable (l : Lookup) (u : Unfit)
  /-- A whole number lies beyond all priorities. -/
  | priorityTooLarge
  /-- Too many values of a free-form column stand inside each other to copy them. -/
  | tooDeep

namespace Fault

/-- The name of what records of any kind might have and do not. The complaint about it is the
    name alone. -/
def heldBack : String := "__abstractmethods__"

/-- The wording of a fault. -/
def message : Fault → String
  | .notFound k value => k.title ++ " with id " ++ value.wording ++ " not found"
  | .folderCycle id => "Folder with id " ++ id ++ " is part of a circular folder chain"
  | .workspaceMismatch id workspaceId =>
    "Folder with id " ++ id ++ " does not belong to workspace " ++ workspaceId
  | .violation v => v.message
  | .unknownSource name => Quoted.render name ++ " is not a valid UpdateSource"
  | .misfit m => m.message
  | .noPriority => "unsupported operand type(s) for +: 'NoneType' and 'float'"
  | .unknownColumn k column =>
    if column = heldBack then column
    else "type object '" ++ k.title ++ "' has no attribute '" ++ column ++ "'"
  | .unfit u => u.message
  | .unseekable l u => l.complaint u
  | .priorityTooLarge => "int too large to convert to float"
  | .tooDeep => "maximum recursion depth exceeded while calling a Python object"

/-- The status and the code that callers see, for the faults that have them. -/
def statusAndCode? : Fault → Option (Nat × String)
  | .notFound .. => some (404, "RESOURCE_NOT_FOUND")
  | .folderCycle _ => some (409, "FOLDER_CYCLE")
  | .workspaceMismatch .. => some (409, "WORKSPACE_MISMATCH")
  | _ => none

end Fault

end RequestCatalog
