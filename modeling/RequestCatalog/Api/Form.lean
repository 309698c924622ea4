import RequestCatalog.Api.Check
import RequestCatalog.Record.Draft

/-! # Records that callers send

  A body that passes the check gives every column of a record: what it leaves out takes
  a value of its own, the same for a new record and for one that is replaced. Fields
  that a kind of record does not have are not looked at.

  A field of text may be garbled. That is no reason to refuse the body, but no column can
  take such a text, so a record with one is never written.
-/

namespace RequestCatalog

namespace Api

open Checked

/-- A record that a caller sent. An empty identifier asks for a new one. -/
structure Form (k : Kind) where
  /-- The identifier. -/
  id : String
  /-- The columns. -/
  data : Columns k
  /-- The fields whose text is garbled, each with its text. The columns have nothing of them. -/
  garbled : List (String × Text) := []

/-- The record as a draft that gives every column. -/
def Form.draft {k : Kind} (form : Form k) : Draft k where
  id := .value form.id
  data := Columns.sketch form.data

namespace Form

/-- The methods of HTTP. -/
def methods : List String := ["GET", "POST", "PUT", "DELETE", "PATCH", "HEAD", "OPTIONS"]

/-- The ways to read a body. -/
def bodyTypes : List String := ["json", "form", "raw"]

/-- Entries as they are stored: name, value, whether they are sent, and identifier. -/
def storedEntries (entries : List HeaderEntry) : Json :=
  .list (entries.map HeaderEntry.toJson)

/-- The kind of authentication. -/
def authenticationType (members : List (Text × Json)) : Checked (Option Text) :=
  optional members "authentication_type" none textOrNull

/-- The settings of the authentication. -/
def authentication (members : List (Text × Json)) : Checked Json :=
  optional members "authentication" (.object []) mapping

/-- The entries, under the name that they have in the body. -/
def entries (members : List (Text × Json)) (name : String) : Checked Json :=
  storedEntries <$> optional members name [] headerEntries

/-- The identifier. -/
def identifier (members : List (Text × Json)) : Checked Text :=
  optional members "id" (.sound "") text

/-- The name of the field that holds the metadata of a gRPC request. The longer of its two
    names counts, if it is there. -/
def metadataName (members : List (Text × Json)) : String :=
  if (members.lookup (.sound "metadata_")).isSome then "metadata_" else "metadata"

/-- The fields of text that a column is to hold, in the order of the columns, with the identifier
    last. -/
def textFields : Kind → List String
  | .workspace => ["name", "authentication_type", "id"]
  | .folder => ["workspace_id", "folder_id", "name", "authentication_type", "id"]
  | .request .http =>
    ["workspace_id", "folder_id", "name", "url", "body", "authentication_type", "id"]
  | .request .grpc =>
    ["workspace_id", "folder_id", "name", "url", "service", "method", "message",
      "authentication_type", "id"]
  | .exchange _ => []

/-- The garbled text of a field, if its text is garbled. -/
def garbledText? (members : List (Text × Json)) (name : String) : Option (String × Text) :=
  match members.lookup (.sound name) with
  | some (.text t) => if t.isSound then none else some (name, t)
  | _ => none

/-- The fields of a record whose text is garbled. -/
def garbledFields (k : Kind) (members : List (Text × Json)) : List (String × Text) :=
  (textFields k).filterMap (garbledText? members)

/-- A workspace. -/
def workspace (members : List (Text × Json)) : Checked (Form .workspace) :=
  (fun name type auth entries id =>
      ⟨id.plain, ⟨name.plain, ⟨type.map Text.plain, .written auth, .written entries⟩⟩,
        garbledFields .workspace members⟩)
    <$> required members "name" text
    <*> authenticationType members
    <*> authentication members
    <*> entries members "headers"
    <*> identifier members

/-- A folder. -/
def folder (members : List (Text × Json)) : Checked (Form .folder) :=
  (fun workspaceId folderId name sortPriority type auth entries id =>
      ⟨id.plain, ⟨workspaceId.plain, folderId.map Text.plain, name.plain, sortPriority,
        ⟨type.map Text.plain, .written auth, .written entries⟩⟩, garbledFields .folder members⟩)
    <$> required members "workspace_id" text
    <*> optional members "folder_id" none textOrNull
    <*> required members "name" text
    <*> optional members "sort_priority" 0.0 priority
    <*> authenticationType members
    <*> authentication members
    <*> entries members "headers"
    <*> identifier members

/-- What an HTTP request sends. -/
def httpCall (members : List (Text × Json)) : Checked HttpCall :=
  (fun method url bodyType body => ⟨method, url.plain, bodyType, body.map Text.plain⟩)
    <$> optional members "method" "GET" (oneOf methods .notMethod)
    <*> optional members "url" (.sound "") text
    <*> optional members "body_type" none (oneOfOrNull bodyTypes .notBodyType)
    <*> optional members "body" none textOrNull

/-- What a gRPC request sends. -/
def grpcCall (members : List (Text × Json)) : Checked GrpcCall :=
  (fun url service method message =>
      ⟨url.plain, service.map Text.plain, method.map Text.plain, message.plain⟩)
    <$> optional members "url" (.sound "") text
    <*> optional members "service" none textOrNull
    <*> optional members "method" none textOrNull
    <*> optional members "message" (.sound "") text

/-- What a request of either protocol sends. -/
def call : (p : Protocol) → List (Text × Json) → Checked (Call p)
  | .http, members => httpCall members
  | .grpc, members => grpcCall members

/-- The name of the field that holds the entries of a request. -/
def entriesName : Protocol → List (Text × Json) → String
  | .http, _ => "headers"
  | .grpc, members => metadataName members

/-- A request. -/
def request (p : Protocol) (members : List (Text × Json)) : Checked (Form (.request p)) :=
  (fun workspaceId folderId name sortPriority type auth call entries id =>
      ⟨id.plain, ⟨workspaceId.plain, folderId.map Text.plain, name.plain, call, sortPriority,
        ⟨type.map Text.plain, .written auth, .written entries⟩⟩,
        garbledFields (.request p) members⟩)
    <$> required members "workspace_id" text
    <*> optional members "folder_id" none textOrNull
    <*> optional members "name" (.sound "") text
    <*> optional members "sort_priority" 0.0 priority
    <*> authenticationType members
    <*> authentication members
    <*> call p members
    <*> entries members (entriesName p members)
    <*> identifier members

end Form

/-! ### Bodies -/

/-- Check a body by its members. -/
def bodyOf {α : Type} (form : List (Text × Json) → Checked α) : Option Json → Checked α
  | none => (refuse .missing).within "body"
  | some (.object members) => (form members).within "body"
  | some _ => (refuse .notObject).within "body"

end Api

end RequestCatalog
