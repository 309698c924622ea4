import RequestCatalog.Tree

/-! # Inherited authentication and entries

  A request is sent with what it inherits from its folders and its workspace.

  * Authentication is taken as a whole from the nearest record that sets a type.
    The workspace has the last word, whether it sets a type or not.
  * Entries are strung together, those of the workspace first and those of the
    request last, so that whoever uses the last entry of a name uses the nearest.

  The same questions can be asked of a record that was never stored. So they are
  asked of a `Node`, the part of a record that takes part in inheritance.
-/

namespace RequestCatalog

/-- A record as far as it takes part in inheritance. -/
structure Node where
  /-- The kind of record. -/
  kind : Kind
  /-- Its identifier; a record that was never stored may have none. -/
  id : Option String
  /-- The workspace it belongs to. -/
  workspaceId : Option String
  /-- The folder it lies in. -/
  folderId : Option String
  /-- What it hands down. -/
  settings : Settings

/-- Settings that hand nothing down. -/
def Settings.none : Settings := ⟨Option.none, .written .null, .written .null⟩

/-- A stored record as a node. What came back from a request hands nothing down. -/
def Row.node : {k : Kind} → Row k → Node
  | .workspace, w => ⟨.workspace, some w.id, some w.id, none, w.data.settings⟩
  | .folder, f =>
    ⟨.folder, some f.id, some f.data.workspaceId, f.data.folderId, f.data.settings⟩
  | .request p, r =>
    ⟨.request p, some r.id, some r.data.workspaceId, r.data.folderId, r.data.settings⟩
  | .exchange p, e => ⟨.exchange p, some e.id, some e.data.workspaceId, none, .none⟩

/-- A draft as a node: what it leaves out is nothing. -/
def Draft.node : {k : Kind} → Draft k → Node
  | .workspace, d =>
    ⟨.workspace, d.id.toOption, d.id.toOption, none, d.data.settings.complete⟩
  | .folder, d =>
    ⟨.folder, d.id.toOption, d.data.workspaceId.toOption, d.data.folderId.toOption,
      d.data.settings.complete⟩
  | .request p, d =>
    ⟨.request p, d.id.toOption, d.data.workspaceId.toOption, d.data.folderId.toOption,
      d.data.settings.complete⟩
  | .exchange p, d => ⟨.exchange p, d.id.toOption, d.data.workspaceId.toOption, none, .none⟩

/-! ### What a node has of its own -/

/-- Authentication and the record that supplied it. -/
structure Authentication where
  /-- The kind of authentication. -/
  authenticationType : Option String
  /-- Its settings. -/
  members : Json.Mapping
  /-- The record that supplied it. -/
  ownerId : Option String

namespace Node

/-- The node sets a type of authentication. An empty text sets none. -/
def setsType (n : Node) : Bool :=
  match n.settings.authenticationType with
  | some type => !type.isEmpty
  | none => false

/-- The node's own authentication. -/
def authentication (n : Node) : Except Fault Authentication :=
  match n.settings.authentication.value.mappingOrVacant with
  | .ok members => .ok ⟨n.settings.authenticationType, members, n.id⟩
  | .error m => .error (.misfit m)

/-- The node's own entries. -/
def entries (n : Node) : Except Fault (List Json) :=
  match n.settings.entries.value.entries with
  | .ok entries => .ok entries
  | .error m => .error (.misfit m)

end Node

namespace Store

/-! ### Along the chain of folders -/

/-- A folder and the folders above it, the nearest first. -/
def chain (s : Store) (folder : Node) : Except Fault (List Node) := do
  return folder :: (← s.climb folder.id.toList folder.folderId).map Row.node

/-- The authentication of a folder: that of the nearest folder of its chain that sets a
    type, else that of its workspace. The whole chain is walked first. -/
def folderAuthentication (s : Store) (folder : Node) : Except Fault Authentication := do
  let chain ← s.chain folder
  match chain.find? Node.setsType with
  | some nearest => nearest.authentication
  | none => (← s.fetch .workspace folder.workspaceId).node.authentication

/-- The entries of a folder: those of its workspace, then those of each folder of its
    chain, the outermost first. -/
def folderEntries (s : Store) (folder : Node) : Except Fault (List Json) := do
  let chain ← s.chain folder
  let workspace ← s.fetch .workspace folder.workspaceId
  let outermost ← workspace.node.entries
  let inner ← chain.reverse.mapM Node.entries
  return outermost ++ inner.flatten

/-! ### Requests -/

/-- The authentication of a request: its own if it sets a type, else that of its folder,
    else that of its workspace. -/
def requestAuthentication (s : Store) (request : Node) : Except Fault Authentication := do
  if request.setsType then
    request.authentication
  else
    match request.folderId with
    | some folderId => s.folderAuthentication (← s.fetch .folder (some folderId)).node
    | none => (← s.fetch .workspace request.workspaceId).node.authentication

/-- The entries of a request: those of its folder or else of its workspace, then its own. -/
def requestEntries (s : Store) (request : Node) : Except Fault (List Json) := do
  let inherited ←
    match request.folderId with
    | some folderId => s.folderEntries (← s.fetch .folder (some folderId)).node
    | none => (← s.fetch .workspace request.workspaceId).node.entries
  return inherited ++ (← request.entries)

end Store

end RequestCatalog
