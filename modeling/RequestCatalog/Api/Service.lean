import RequestCatalog.Api.ContentType
import RequestCatalog.Api.Payload
import RequestCatalog.Api.Reply
import RequestCatalog.Api.Route
import RequestCatalog.Requests

/-! # Answering calls

  A call is answered in three steps. Its address and method name an endpoint. What it
  carries is checked, and if all of it is accepted there is a command. The command is
  carried out on the catalogue, and what it finds or writes is shown.

  A folder may be written only where the tree stays a tree and workspaces stay apart;
  a request only into a folder of its own workspace. Both are decided before anything
  is written.
-/

namespace RequestCatalog

namespace Api

/-! ### Calls and commands -/

/-- A call. -/
structure Incoming where
  /-- The method. -/
  method : String
  /-- The path, its percent signs resolved. -/
  path : String
  /-- The named values behind the path, in order. -/
  query : List (String × String)
  /-- The header lines, in order. -/
  headers : List (String × String)
  /-- What the call carries. -/
  payload : Payload
  /-- Whether a body that is `null` counts as a body. That is for the server to say which hands
      bodies on; where it does not count, nothing was sent. -/
  countsNull : Bool := false

/-- What a caller wants, once everything that was sent is accepted. -/
inductive Command where
  /-- Show the front page. -/
  | about
  /-- Tell whether the catalogue works. -/
  | health
  /-- List all workspaces. -/
  | listWorkspaces
  /-- List the folders of a workspace. -/
  | listFolders (workspaceId : String)
  /-- List the requests of a workspace. -/
  | listRequests (p : Protocol) (workspaceId : String)
  /-- List the requests in a folder and below it. -/
  | listContents (p : Protocol) (folderId : String)
  /-- Show a record. -/
  | get (k : Kind) (id : String)
  /-- Write a workspace. -/
  | writeWorkspace (form : Form .workspace) (source : Source)
  /-- Write a folder. -/
  | writeFolder (form : Form .folder) (source : Source)
  /-- Write a request. -/
  | writeRequest (p : Protocol) (form : Form (.request p)) (source : Source)
  /-- Delete a record. -/
  | delete (k : Kind) (id : String) (source : Source)
  /-- Copy a request. -/
  | duplicate (p : Protocol) (id : String) (source : Source)
  /-- Show the authentication that a folder has in the end. -/
  | folderAuthentication (id : String)
  /-- Show the entries that a folder has in the end. -/
  | folderEntries (id : String)
  /-- Show the authentication that a request has in the end. -/
  | requestAuthentication (p : Protocol) (id : String)
  /-- Show the entries that a request has in the end. -/
  | requestEntries (p : Protocol) (id : String)

/-! ### From a call to a command -/

namespace Incoming

/-- The first header line of this name. Names of header lines may be written in any case. -/
def header? (call : Incoming) (name : String) : Option String :=
  (call.headers.find? fun (other, _) => other.map Char.toLower == name).map Prod.snd

/-- The header line that names the origin of a write. -/
def sourceHeader : String := "x-update-source"

/-- The header line that tells what a call carries. -/
def contentHeader : String := "content-type"

/-- The origin of a write. -/
def source (call : Incoming) : Checked Source :=
  match call.header? sourceHeader with
  | none => pure .window
  | some value =>
    match Source.ofName? value with
    | some source => pure source
    | none => ((Checked.refuse .notSource).within sourceHeader).within "header"

/-- The workspace named behind the path. Of several the last one counts. -/
def workspaceId (call : Incoming) : Checked String :=
  match call.query.reverse.lookup "workspace_id" with
  | some value => pure value
  | none => ((Checked.refuse .missing).within "workspace_id").within "query"

/-- The value that was sent, where a `null` may count for nothing. -/
def counted (call : Incoming) : Option Json → Option Json
  | some .null => if call.countsNull then some .null else none
  | value => value

/-- The body. It is a value unless the call tells otherwise. -/
def body (call : Incoming) : Checked (Option Json) :=
  if (call.header? contentHeader).all fun text => (ContentType.ofText text).isValue then
    call.counted <$> call.payload.value
  else pure call.payload.unread

/-- The record in the body, with the origin of the write. A body that is no value at all is
    the only complaint about a call. -/
def form {k : Kind} (call : Incoming)
    (check : List (Text × Json) → Checked (Form k)) : Checked (Form k × Source) :=
  match call.body with
  | .flawed complaints => .flawed complaints
  | .sound body => (fun source form => (form, source)) <$> call.source <*> bodyOf check body

end Incoming

/-- The command that a call gives to a resource, for a method that the resource knows. -/
def Resource.command? (call : Incoming) :
    Resource → (method : String) → Option (Checked Command)
  | .about, "GET" => some (pure .about)
  | .health, "GET" => some (pure .health)
  | .collection .workspace, "GET" => some (pure .listWorkspaces)
  | .collection .folder, "GET" => some (.listFolders <$> call.workspaceId)
  | .collection (.request p), "GET" => some (.listRequests p <$> call.workspaceId)
  | .collection .workspace, "POST" =>
    some ((fun (form, source) => .writeWorkspace form source) <$> call.form Form.workspace)
  | .collection .folder, "POST" =>
    some ((fun (form, source) => .writeFolder form source) <$> call.form Form.folder)
  | .collection (.request p), "POST" =>
    some ((fun (form, source) => .writeRequest p form source) <$> call.form (Form.request p))
  | .record k id, "GET" => some (pure (.get k id))
  | .record k id, "DELETE" => some (.delete k id <$> call.source)
  | .copies p id, "POST" => some (.duplicate p id <$> call.source)
  | .authentication .folder id, "GET" => some (pure (.folderAuthentication id))
  | .authentication (.request p) id, "GET" => some (pure (.requestAuthentication p id))
  | .entries .folder id, "GET" => some (pure (.folderEntries id))
  | .entries (.request p) id, "GET" => some (pure (.requestEntries p id))
  | .contents p folderId, "GET" => some (pure (.listContents p folderId))
  | _, _ => none

/-! ### Carrying out commands -/

/-- A garbled field cannot be looked up. -/
def Form.demand {k : Kind} (form : Form k) (field : String) : Except Fault Unit :=
  Op.demand form.garbled field

/-- Whether a folder may be written: its workspace exists, a stored folder does not change
    its workspace, its parent exists in the same workspace, and no loop is closed. -/
def admitFolder (form : Form .folder) (s : Store) : Except Fault Unit := do
  let workspaceId := form.data.workspaceId
  form.demand "workspace_id"
  let _ ← s.fetch .workspace (some workspaceId)
  form.demand "id"
  match s.get? .folder form.id with
  | some stored =>
    if !form.id.isEmpty && stored.data.workspaceId != workspaceId then
      throw (.workspaceMismatch form.id workspaceId)
  | none => pure ()
  form.demand "folder_id"
  match form.data.folderId with
  | none => pure ()
  | some parentId =>
    let parent ← s.fetch .folder (some parentId)
    if parent.data.workspaceId != workspaceId then
      throw (.workspaceMismatch parent.id workspaceId)
    if !form.id.isEmpty && s.wouldLoop form.id (some parentId) then
      throw (.folderCycle form.id)

/-- Whether a request may be written: its workspace exists, and its folder exists in that
    workspace. -/
def admitRequest {p : Protocol} (form : Form (.request p)) (s : Store) : Except Fault Unit := do
  let workspaceId := form.data.workspaceId
  form.demand "workspace_id"
  let _ ← s.fetch .workspace (some workspaceId)
  form.demand "folder_id"
  match form.data.folderId with
  | none => pure ()
  | some folderId =>
    let folder ← s.fetch .folder (some folderId)
    if folder.data.workspaceId != workspaceId then
      throw (.workspaceMismatch folder.id workspaceId)

/-- Workspaces in the order in which they are listed: by age, then by identifier. -/
def listedBefore (a b : Row .workspace) : Bool :=
  a.createdAt.seconds < b.createdAt.seconds ||
    (a.createdAt == b.createdAt && decide (a.id ≤ b.id))

/-- The front page. -/
def frontPage : Json :=
  .object [("name", .text "Request Collections"), ("version", .text "1.0.0"),
    ("docs", .text "/docs")]

/-- Write a record that a caller sent. -/
def Form.write {k : Kind} (form : Form k) (source : String) : Op (Row k) :=
  Op.save form.draft form.garbled source

/-- Delete a stored record. A request takes what came back from it along, piece by piece. -/
def deleteStored : {k : Kind} → Row k → String → Op (Row k)
  | .request _, r, source => Op.deleteRequest r source
  | .workspace, w, source => Op.delete w source
  | .folder, f, source => Op.delete f source
  | .exchange _, e, source => Op.delete e source

/-- Carry out a command. -/
def Command.run : Command → Op Reply
  | .about => return .json 200 frontPage
  | .health => return .json 200 (.object [("status", .text "healthy")])
  | .listWorkspaces => do
    let rows ← Op.ask (·.workspaces)
    return .showing 200 (shownRows? (rows.mergeSort listedBefore))
  | .listFolders workspaceId => do
    let rows ← Op.ask (·.foldersOf workspaceId)
    return .showing 200 (shownRows? (Priority.sort Row.folderPriority rows))
  | .listRequests p workspaceId => do
    let rows ← Op.ask (·.requestsOf p (some workspaceId))
    return .showing 200 (shownRows? (Priority.sort Row.requestPriority rows))
  | .listContents p folderId => do
    let rows ← Op.consult (·.requestsUnder p folderId)
    return .showing 200 (shownRows? rows)
  | .get k id => do
    return .showing 200 (shownRow? (← Op.fetch k id))
  | .writeWorkspace form source => do
    return .showing 200 (shownRow? (← form.write source.name))
  | .writeFolder form source => do
    Op.consult (admitFolder form)
    return .showing 200 (shownRow? (← form.write source.name))
  | .writeRequest _ form source => do
    Op.consult (admitRequest form)
    return .showing 200 (shownRow? (← form.write source.name))
  | .delete k id source => do
    let row ← Op.fetch k id
    let _ ← deleteStored row source.name
    return .done
  | .duplicate p id source => do
    let row ← Op.fetch (.request p) id
    return .showing 201 (shownRow? (← Op.duplicate row.draft source.name))
  | .folderAuthentication id => do
    let folder ← Op.fetch .folder id
    let found ← Op.askUpwards (·.folderAuthentication folder.node)
    return .showing 200 (shownOutcome? found)
  | .folderEntries id => do
    let folder ← Op.fetch .folder id
    let found ← Op.askUpwards (·.folderEntries folder.node)
    return .showing 200 (shownEntries? (.list found))
  | .requestAuthentication p id => do
    let request ← Op.fetch (.request p) id
    let found ← Op.askUpwards (·.requestAuthentication request.node)
    return .showing 200 (shownOutcome? found)
  | .requestEntries p id => do
    let request ← Op.fetch (.request p) id
    let found ← Op.askUpwards (·.requestEntries request.node)
    return .showing 200 (shownEntries? (.list found))

/-! ### Answering -/

/-- The path as a report names it. A question mark and a number sign are written as an address
    would write them, and tabs and line breaks are left out. -/
def reportedPath (path : String) : String :=
  String.ofList (path.toList.flatMap fun
    | '?' => ['%', '3', 'F']
    | '#' => ['%', '2', '3']
    | '\\' => ['%', '5', 'C']
    | '\t' | '\n' | '\r' => []
    | c => [c])

/-- Carry out a command and turn a fault into a reply. A change that the tables refused is
    reported with the call. -/
def carryOut (call : Incoming) (command : Command) : Op Reply := fun c =>
  match command.run c with
  | .ok reply c => .ok reply c
  | .error fault c =>
    let report :=
      match fault with
      | .violation v => Op.note (.storageFailure call.method (reportedPath call.path) v)
      | _ => pure ()
    (report *> pure (Reply.ofFault fault)) c

/-- Answer a call in full. -/
def answer (call : Incoming) : Op Reply := do
  match Resource.ofPath? call.path with
  | none => return if isSlashedResource call.path then .elsewhere else .unknownAddress
  | some resource =>
    match resource.command? call call.method with
    | none => return .unknownMethod
    | some (.flawed complaints) => return .refused complaints
    | some (.sound command) => carryOut call command

/-- Answer a call. A caller who asks for the head alone gets no content. -/
def serve (call : Incoming) : Op Reply := do
  let reply ← answer call
  return if call.method == "HEAD" then reply.head else reply

end Api

end RequestCatalog
