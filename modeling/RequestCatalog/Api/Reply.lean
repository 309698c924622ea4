import RequestCatalog.Api.Form
import RequestCatalog.Inheritance

/-! # Replies

  What callers get back. A stored record is shown only if it fits the form in which
  records are shown: a finite priority, an object of authentication settings in which not
  too many values stand inside each other, a list of complete entries, a known method and
  body type, and no garbled text. The tables hold records that do not fit, and a reply that would
  show one fails as a whole.

  Entries are shown the way they are read from callers: completed, and without members
  that entries do not have. Numbers that cannot be shown in authentication settings
  become `null`.
-/

namespace RequestCatalog

namespace Api

/-! ### Replies -/

/-- What a reply carries. -/
inductive Content where
  /-- Nothing. -/
  | none
  /-- A value. -/
  | json (j : Json)
  /-- A plain text. -/
  | text (s : String)

/-- A reply. -/
structure Reply where
  /-- The status. -/
  status : Nat
  /-- What it carries. -/
  content : Content

namespace Reply

/-- A reply that carries a value. -/
def json (status : Nat) (j : Json) : Reply := ⟨status, .json j⟩

/-- A reply that explains itself. -/
def explained (status : Nat) (detail code : String) : Reply :=
  json status (.object [("detail", .text detail), ("error_code", .text code)])

/-- A reply that explains itself without a code. -/
def plain (status : Nat) (detail : String) : Reply :=
  json status (.object [("detail", .text detail)])

/-- The address is not known. -/
def unknownAddress : Reply := plain 404 "Not Found"

/-- The address is known, the method is not. -/
def unknownMethod : Reply := plain 405 "Method Not Allowed"

/-- The address would be known without the slashes at its end. -/
def elsewhere : Reply := ⟨307, .none⟩

/-- It is done, and there is nothing to show. -/
def done : Reply := ⟨204, .none⟩

/-- What was stored does not fit the form in which it is shown. -/
def failed : Reply := ⟨500, .text "Internal Server Error"⟩

/-- Something the caller sent is refused. A body that cannot be read at all leaves nothing to
    complain about in detail. -/
def refused (complaints : List Complaint) : Reply :=
  if complaints.any (·.flaw == .unreadable) then plain 400 Flaw.unreadable.message
  else explained 422 ("; ".intercalate (complaints.map Complaint.message)) "VALIDATION_ERROR"

/-- The tables refuse a change. -/
def notStored : Reply := explained 500 "Database error occurred" "DATABASE_ERROR"

/-- The reply to a call that failed. -/
def ofFault (fault : Fault) : Reply :=
  match fault.statusAndCode?, fault with
  | some (status, code), _ => explained status fault.message code
  | none, .violation _ => notStored
  | none, _ => failed

/-- The reply that shows a value, if it can be shown. -/
def showing (status : Nat) : Option Json → Reply
  | some j => json status j
  | none => failed

/-- The reply as it reaches a caller who asked for its head alone. -/
def head (r : Reply) : Reply := { r with content := .none }

end Reply

/-! ### Showing records -/

/-- A priority that can be shown. -/
def shownPriority? (x : Float) : Option Json :=
  if x.isFinite then some (.real x) else none

/-- How high a setting may be that is shown. -/
def greatestHeight : Nat := 255

/-- Authentication settings that can be shown. -/
def shownAuthentication? : Json → Option Json
  | .object members =>
    if Json.heightOfMembers members ≤ greatestHeight ∧ Json.isSoundMembers members then
      some (Json.object members).shown
    else none
  | _ => none

/-- Entries that can be shown. -/
def shownEntries? (j : Json) : Option Json :=
  ((headerEntries j).toOption.map Form.storedEntries).filter Json.isSound

/-- The inherited settings of a record, with the name that its entries have in replies. -/
def shownSettings? (name : String) (s : Settings) : Option (List (Text × Json)) := do
  let authentication ← shownAuthentication? s.authentication.value
  let entries ← shownEntries? s.entries.value
  return [("authentication_type", .ofText? s.authenticationType),
    ("authentication", authentication), (name, entries)]

/-- What a request sends. -/
def shownCall? : {p : Protocol} → Call p → Option (List (Text × Json))
  | .http, c => do
    let method ← (oneOf Form.methods .notMethod (.text c.method)).toOption
    let bodyType ← (oneOfOrNull Form.bodyTypes .notBodyType (.ofText? c.bodyType)).toOption
    return [("method", .text method), ("url", .text c.url), ("body_type", .ofText? bodyType),
      ("body", .ofText? c.body)]
  | .grpc, c =>
    some [("url", .text c.url), ("service", .ofText? c.service), ("method", .ofText? c.method),
      ("message", .text c.message)]

/-- The name that the entries of a request have in replies. -/
def shownEntriesName : Protocol → String
  | .http => "headers"
  | .grpc => "metadata"

/-- The columns of a record. What came back from a request is never shown. -/
def shownColumns? : {k : Kind} → Columns k → Option (List (Text × Json))
  | .workspace, w => do
    return ("name", .text w.name) :: (← shownSettings? "headers" w.settings)
  | .folder, f => do
    return [(Text.sound "workspace_id", Json.text f.workspaceId),
      ("folder_id", .ofText? f.folderId), ("name", .text f.name),
      ("sort_priority", ← shownPriority? f.sortPriority)] ++
      (← shownSettings? "headers" f.settings)
  | .request p, r => do
    return [(Text.sound "workspace_id", Json.text r.workspaceId),
      ("folder_id", .ofText? r.folderId), ("name", .text r.name),
      ("sort_priority", ← shownPriority? r.sortPriority)] ++
      (← shownCall? r.call) ++ (← shownSettings? (shownEntriesName p) r.settings)
  | .exchange _, _ => none

/-- A stored record, if it fits the form in which records are shown. -/
def shownRow? {k : Kind} (row : Row k) : Option Json := do
  return .object ((← shownColumns? row.data) ++ [(Text.sound "id", Json.text row.id),
    ("created_at", .text row.createdAt.text), ("updated_at", .text row.updatedAt.text)])

/-- Several stored records. One that does not fit spoils all. -/
def shownRows? {k : Kind} (rows : List (Row k)) : Option Json :=
  .list <$> rows.mapM shownRow?

/-- The authentication that a folder or request has in the end. All its names are texts. -/
def shownOutcome? (a : Authentication) : Option Json := do
  let authentication ← shownAuthentication? (.object (← a.members.members?))
  return .object [("authentication_type", .ofText? a.authenticationType),
    ("authentication", authentication), ("owner_id", .text (← a.ownerId))]

end Api

end RequestCatalog
