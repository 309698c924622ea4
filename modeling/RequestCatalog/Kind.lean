/-! # The kinds of records

  A catalogue keeps six tables. Workspaces hold folders and requests; a request
  speaks one of two protocols; and every finished call of a request leaves a
  record of what came back, kept apart per protocol. The two protocols differ in
  a few columns only, so they are a parameter and not a second set of definitions.
-/

namespace RequestCatalog

/-- The protocols a request can speak. -/
inductive Protocol where
  /-- A plain HTTP call, answered by a response. -/
  | http
  /-- A gRPC call, made over a connection. -/
  | grpc
  deriving DecidableEq, Repr, Inhabited

/-- The kinds of records, one table for each. -/
inductive Kind where
  /-- A workspace, the root of a tree of folders and requests. -/
  | workspace
  /-- A folder inside a workspace or inside another folder. -/
  | folder
  /-- A request, saved to be sent again. -/
  | request (p : Protocol)
  /-- What came back from one call of a request. -/
  | exchange (p : Protocol)
  deriving DecidableEq, Repr, Inhabited

namespace Kind

/-- The name a kind goes by in messages. -/
def title : Kind → String
  | .workspace => "Workspace"
  | .folder => "Folder"
  | .request .http => "HttpRequest"
  | .request .grpc => "GrpcRequest"
  | .exchange .http => "HttpResponse"
  | .exchange .grpc => "GrpcConnection"

/-- The name of the table that holds the records of a kind. -/
def table : Kind → String
  | .workspace => "workspaces"
  | .folder => "folders"
  | .request .http => "http_requests"
  | .request .grpc => "grpc_requests"
  | .exchange .http => "http_responses"
  | .exchange .grpc => "grpc_connections"

/-- The first letters of every identifier made for a record of this kind. -/
def stem : Kind → String
  | .workspace => "wk"
  | .folder => "fl"
  | .request .http => "rq"
  | .request .grpc => "gr"
  | .exchange .http => "rs"
  | .exchange .grpc => "gc"

/-- All six kinds. -/
def all : List Kind :=
  [.workspace, .folder, .request .http, .request .grpc, .exchange .http, .exchange .grpc]

theorem mem_all (k : Kind) : k ∈ all := by
  rcases k with _ | _ | (_ | _) | (_ | _) <;> simp [all]

/-- The kind a message calls by this name. -/
def ofTitle? (title : String) : Option Kind :=
  all.find? (·.title == title)

theorem ofTitle?_title (k : Kind) : ofTitle? k.title = some k := by
  rcases k with _ | _ | (_ | _) | (_ | _) <;> rfl

end Kind

/-! ### Identifiers -/

/-- The identifier that is made for a record of this kind: the stem of the kind and digits. -/
def Kind.identifier (k : Kind) (digits : String) : String :=
  k.stem ++ "_" ++ digits

/-! ### Who caused a write -/

/-- The origin of a write, noted with it. -/
inductive Source where
  /-- A person at a window. -/
  | window
  /-- A plug-in. -/
  | plugin
  /-- Work in the background. -/
  | background
  /-- Reading in a foreign collection. -/
  | importing
  /-- Synchronisation with another place. -/
  | sync
  deriving DecidableEq, Repr, Inhabited

namespace Source

/-- The name of an origin. -/
def name : Source → String
  | .window => "window"
  | .plugin => "plugin"
  | .background => "background"
  | .importing => "import"
  | .sync => "sync"

/-- All origins, in the order in which messages list them. -/
def all : List Source := [.window, .plugin, .background, .importing, .sync]

/-- The origin of this name. Names are exact: case and blanks count. -/
def ofName? (name : String) : Option Source :=
  all.find? (·.name == name)

theorem ofName?_name (s : Source) : ofName? s.name = some s := by
  cases s <;> rfl

end Source

end RequestCatalog
