import RequestCatalog.Instant
import RequestCatalog.Kind
import RequestCatalog.Record.FreeForm

/-! # Records

  What each of the six tables holds. A stored record (`Row`) is an identifier, the
  columns of its kind, and the times at which it was made and last written.

  Workspaces, folders and requests share what takes part in inheritance
  (`Settings`): the authentication and the list of entries that a record hands to
  what lies below it. Entries are header lines, or metadata lines for gRPC.

  Priorities, texts and numbers have exact types. The free-form columns keep any
  value, because nothing but the reply to a caller ever checks them.
-/

namespace RequestCatalog

/-! ### Columns -/

/-- The part of a record that takes part in inheritance. -/
structure Settings where
  /-- The kind of authentication; nothing or an empty text leaves it to the parent. -/
  authenticationType : Option String
  /-- The settings of that kind of authentication. -/
  authentication : FreeForm
  /-- Header or metadata entries, in order. -/
  entries : FreeForm

/-- The columns of a workspace. -/
structure Workspace where
  /-- A name for people. -/
  name : String
  /-- What everything in the workspace inherits. -/
  settings : Settings

/-- The columns of a folder. -/
structure Folder where
  /-- The workspace the folder belongs to. -/
  workspaceId : String
  /-- The folder it lies in, if it does not lie directly in its workspace. -/
  folderId : Option String
  /-- A name for people. -/
  name : String
  /-- Its place among its siblings. -/
  sortPriority : Float
  /-- What everything below the folder inherits. -/
  settings : Settings

/-- What an HTTP request sends. -/
structure HttpCall where
  /-- The method. -/
  method : String
  /-- The address. -/
  url : String
  /-- How the body is to be read. -/
  bodyType : Option String
  /-- The body. -/
  body : Option String

/-- What a gRPC request sends. -/
structure GrpcCall where
  /-- The address of the server. -/
  url : String
  /-- The service. -/
  service : Option String
  /-- The method of the service. -/
  method : Option String
  /-- The message. -/
  message : String

/-- What a request of either protocol sends. -/
abbrev Call : Protocol → Type
  | .http => HttpCall
  | .grpc => GrpcCall

/-- The columns of a request. -/
structure Request (p : Protocol) where
  /-- The workspace the request belongs to. -/
  workspaceId : String
  /-- The folder it lies in, if it does not lie directly in its workspace. -/
  folderId : Option String
  /-- A name for people. -/
  name : String
  /-- What is sent. -/
  call : Call p
  /-- Its place among its siblings. -/
  sortPriority : Float
  /-- Its own authentication and entries. -/
  settings : Settings

/-- What an HTTP response adds to a result. -/
structure HttpDetail where
  /-- The body that was received. -/
  body : Option String

/-- What a gRPC connection adds to a result. -/
structure GrpcDetail where
  /-- The service that was called. -/
  service : Option String
  /-- The method that was called. -/
  method : Option String

/-- The columns in which the results of the two protocols differ. -/
abbrev Detail : Protocol → Type
  | .http => HttpDetail
  | .grpc => GrpcDetail

/-- The columns of what came back from one call of a request. -/
structure Exchange (p : Protocol) where
  /-- The workspace it belongs to. -/
  workspaceId : String
  /-- The request that was sent. -/
  requestId : String
  /-- The final status, `-1` while a connection is open. -/
  status : Int
  /-- How long the call took, in milliseconds. -/
  elapsedMs : Int
  /-- What the protocol adds. -/
  detail : Detail p

/-- The columns of a kind of record. -/
abbrev Columns : Kind → Type
  | .workspace => Workspace
  | .folder => Folder
  | .request p => Request p
  | .exchange p => Exchange p

/-! ### Stored records -/

/-- A stored record. -/
structure Row (k : Kind) where
  /-- Its identifier, unique among the records of its kind. -/
  id : String
  /-- Its columns. -/
  data : Columns k
  /-- When it was first written. -/
  createdAt : Instant
  /-- When it was last written. -/
  updatedAt : Instant

/-- The place of a stored folder among its siblings. -/
def Row.folderPriority (f : Row .folder) : Float := f.data.sortPriority

/-- The place of a stored request among its siblings. -/
def Row.requestPriority {p : Protocol} (r : Row (.request p)) : Float := r.data.sortPriority

/-! ### References

  Records refer to each other by kind and identifier. A reference that is not set
  refers to nothing. -/

/-- A record as others refer to it. -/
structure Key where
  /-- The kind of record. -/
  kind : Kind
  /-- Its identifier. -/
  id : String
  deriving DecidableEq, Repr, Inhabited

/-- The records that the columns of a record refer to. -/
def Columns.refs : (k : Kind) → Columns k → List Key
  | .workspace, _ => []
  | .folder, f => ⟨.workspace, f.workspaceId⟩ :: f.folderId.toList.map (⟨.folder, ·⟩)
  | .request _, r => ⟨.workspace, r.workspaceId⟩ :: r.folderId.toList.map (⟨.folder, ·⟩)
  | .exchange p, e => [⟨.workspace, e.workspaceId⟩, ⟨.request p, e.requestId⟩]

/-- How others refer to a stored record. -/
def Row.key {k : Kind} (row : Row k) : Key := ⟨k, row.id⟩

/-- The records that a stored record refers to. -/
def Row.refs {k : Kind} (row : Row k) : List Key := Columns.refs k row.data

end RequestCatalog
