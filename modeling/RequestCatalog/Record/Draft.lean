import RequestCatalog.Record

/-! # Drafts

  A draft is a record before it is stored. Each column is left out, set to nothing,
  or given a value; a free-form column is left out or given a value, and nothing is
  a value like any other there.

  A draft becomes the columns of a record in two ways. A new record takes the
  defaults of its kind for every column without a value (`filledFrom`). A stored
  record keeps what it holds in the columns that are left out (`laidOver`). Either
  way a column that must not be empty may still be: `Sketch.columns?` refuses it
  and names the first one. Whole numbers are kept in 64 bits; a draft that gives a
  larger one cannot be stored at all (`Sketch.numbersFit`), and neither can one with a
  free-form value that cannot be put in writing (`Sketch.obstacle?`).
-/

namespace RequestCatalog

/-! ### Given columns -/

/-- What a draft says of a column. -/
inductive Given (α : Type) where
  /-- The column is left out. -/
  | absent
  /-- The column is set to nothing. -/
  | null
  /-- The column is given a value. -/
  | value (a : α)
  deriving DecidableEq, Repr, Inhabited

namespace Given

/-- A column of a new record: without a value it takes the default. -/
def filledFrom {α : Type} : Given α → Given α → Given α
  | .value a, _ => .value a
  | _, default => default

/-- A column of a stored record: left out, it stays as it is. -/
def laidOver {α : Type} : Given α → Given α → Given α
  | .absent, old => old
  | g, _ => g

/-- A column that may be empty. -/
def toOption {α : Type} : Given α → Option α
  | .value a => some a
  | _ => none

/-- A column that is set, to a value or to nothing. -/
def ofOption {α : Type} : Option α → Given α
  | some a => .value a
  | none => .null

@[simp] theorem toOption_ofOption {α : Type} (o : Option α) : (ofOption o).toOption = o := by
  cases o <;> rfl

end Given

/-! ### Changes that are refused -/

/-- Why the tables refuse a change. -/
inductive Violation where
  /-- A column that must not be empty is. -/
  | emptyColumn (k : Kind) (column : String)
  /-- A reference names no record. -/
  | danglingReference
  /-- A free-form value cannot be put in writing. -/
  | unwritable (o : Json.Obstacle)
  /-- A deletion would open too many others inside each other. -/
  | tooManyLevels
  deriving DecidableEq, Repr

/-- The wording of a refused change. -/
def Violation.message : Violation → String
  | .emptyColumn k column => "NOT NULL constraint failed: " ++ k.table ++ "." ++ column
  | .danglingReference => "FOREIGN KEY constraint failed"
  | .unwritable .tooDeep =>
    "(builtins.RecursionError) maximum recursion depth exceeded while encoding a JSON object"
  | .unwritable .tooLong =>
    "(builtins.ValueError) Exceeds the limit (4300 digits) for integer string conversion; " ++
      "use sys.set_int_max_str_digits() to increase the limit"
  | .tooManyLevels => "too many levels of trigger recursion"

/-- A column that must not be empty. -/
def Given.required {α : Type} (k : Kind) (column : String) : Given α → Except Violation α
  | .value a => .ok a
  | _ => .error (.emptyColumn k column)

/-- The form in which a priority is kept: NaN cannot be kept and counts as nothing,
    and zero has no sign. -/
def Given.keptPriority : Given Float → Given Float
  | .value x => if x.isNaN then .null else if x == 0.0 then .value 0.0 else .value x
  | g => g

/-! ### Drafts, kind by kind -/

/-- What a draft says of inherited settings. -/
structure Settings.Sketch where
  /-- The kind of authentication. -/
  authenticationType : Given String := .absent
  /-- The settings of that authentication. -/
  authentication : Option FreeForm := none
  /-- Header or metadata entries. -/
  entries : Option FreeForm := none

/-- What a draft says of a workspace. -/
structure Workspace.Sketch where
  /-- A name for people. -/
  name : Given String := .absent
  /-- What everything in the workspace inherits. -/
  settings : Settings.Sketch := {}

/-- What a draft says of a folder. -/
structure Folder.Sketch where
  /-- The workspace the folder belongs to. -/
  workspaceId : Given String := .absent
  /-- The folder it lies in. -/
  folderId : Given String := .absent
  /-- A name for people. -/
  name : Given String := .absent
  /-- Its place among its siblings. -/
  sortPriority : Given Float := .absent
  /-- What everything below the folder inherits. -/
  settings : Settings.Sketch := {}

/-- What a draft says of an HTTP call. -/
structure HttpCall.Sketch where
  /-- The method. -/
  method : Given String := .absent
  /-- The address. -/
  url : Given String := .absent
  /-- How the body is to be read. -/
  bodyType : Given String := .absent
  /-- The body. -/
  body : Given String := .absent

/-- What a draft says of a gRPC call. -/
structure GrpcCall.Sketch where
  /-- The address of the server. -/
  url : Given String := .absent
  /-- The service. -/
  service : Given String := .absent
  /-- The method of the service. -/
  method : Given String := .absent
  /-- The message. -/
  message : Given String := .absent

/-- What a draft says of a call of either protocol. -/
abbrev Call.Sketch : Protocol → Type
  | .http => HttpCall.Sketch
  | .grpc => GrpcCall.Sketch

/-- What a draft says of a request. -/
structure Request.Sketch (p : Protocol) where
  /-- The workspace the request belongs to. -/
  workspaceId : Given String := .absent
  /-- The folder it lies in. -/
  folderId : Given String := .absent
  /-- A name for people. -/
  name : Given String := .absent
  /-- What is sent. -/
  call : Call.Sketch p
  /-- Its place among its siblings. -/
  sortPriority : Given Float := .absent
  /-- Its own authentication and entries. -/
  settings : Settings.Sketch := {}

/-- What a draft says of an HTTP response. -/
structure HttpDetail.Sketch where
  /-- The body that was received. -/
  body : Given String := .absent

/-- What a draft says of a gRPC connection. -/
structure GrpcDetail.Sketch where
  /-- The service that was called. -/
  service : Given String := .absent
  /-- The method that was called. -/
  method : Given String := .absent

/-- What a draft says of the columns in which results differ. -/
abbrev Detail.Sketch : Protocol → Type
  | .http => HttpDetail.Sketch
  | .grpc => GrpcDetail.Sketch

/-- What a draft says of a result. -/
structure Exchange.Sketch (p : Protocol) where
  /-- The workspace it belongs to. -/
  workspaceId : Given String := .absent
  /-- The request that was sent. -/
  requestId : Given String := .absent
  /-- The final status. -/
  status : Given Int := .absent
  /-- How long the call took. -/
  elapsedMs : Given Int := .absent
  /-- What the protocol adds. -/
  detail : Detail.Sketch p

/-- What a draft says of the columns of a kind. -/
abbrev Sketch : Kind → Type
  | .workspace => Workspace.Sketch
  | .folder => Folder.Sketch
  | .request p => Request.Sketch p
  | .exchange p => Exchange.Sketch p

/-- A record before it is stored. -/
structure Draft (k : Kind) where
  /-- Its identifier; without one, or with an empty one, it is a new record. -/
  id : Given String := .absent
  /-- What it says of the columns. -/
  data : Sketch k

/-! ### A draft over a draft

  Both ways of completing a draft go column by column, so they are one function
  that takes the rule for a single column. Free-form columns follow the same rule
  in both cases: a value stands unless it agrees with the one below, and a column
  that is left out is taken from below. -/

/-- A rule that completes a single column. -/
abbrev ColumnRule := {α : Type} → Given α → Given α → Given α

/-- Complete settings column by column. -/
def Settings.Sketch.over (rule : ColumnRule) (s base : Settings.Sketch) : Settings.Sketch where
  authenticationType := rule s.authenticationType base.authenticationType
  authentication := FreeForm.laid s.authentication base.authentication
  entries := FreeForm.laid s.entries base.entries

/-- Complete a call column by column. -/
def Call.Sketch.over (rule : ColumnRule) :
    {p : Protocol} → (s base : Call.Sketch p) → Call.Sketch p
  | .http, s, base =>
    { method := rule s.method base.method
      url := rule s.url base.url
      bodyType := rule s.bodyType base.bodyType
      body := rule s.body base.body }
  | .grpc, s, base =>
    { url := rule s.url base.url
      service := rule s.service base.service
      method := rule s.method base.method
      message := rule s.message base.message }

/-- Complete the differing columns of a result. -/
def Detail.Sketch.over (rule : ColumnRule) :
    {p : Protocol} → (s base : Detail.Sketch p) → Detail.Sketch p
  | .http, s, base => { body := rule s.body base.body }
  | .grpc, s, base =>
    { service := rule s.service base.service
      method := rule s.method base.method }

/-- Complete a draft of any kind, column by column. -/
def Sketch.over (rule : ColumnRule) : {k : Kind} → (s base : Sketch k) → Sketch k
  | .workspace, s, base =>
    { name := rule s.name base.name
      settings := s.settings.over rule base.settings }
  | .folder, s, base =>
    { workspaceId := rule s.workspaceId base.workspaceId
      folderId := rule s.folderId base.folderId
      name := rule s.name base.name
      sortPriority := rule s.sortPriority base.sortPriority
      settings := s.settings.over rule base.settings }
  | .request _, s, base =>
    { workspaceId := rule s.workspaceId base.workspaceId
      folderId := rule s.folderId base.folderId
      name := rule s.name base.name
      call := Call.Sketch.over rule s.call base.call
      sortPriority := rule s.sortPriority base.sortPriority
      settings := s.settings.over rule base.settings }
  | .exchange _, s, base =>
    { workspaceId := rule s.workspaceId base.workspaceId
      requestId := rule s.requestId base.requestId
      status := rule s.status base.status
      elapsedMs := rule s.elapsedMs base.elapsedMs
      detail := Detail.Sketch.over rule s.detail base.detail }

/-! ### Defaults, nothing at all, and what is stored -/

/-- The defaults of inherited settings. -/
def Settings.defaults : Settings.Sketch where
  authenticationType := .null
  authentication := some (.written (.object []))
  entries := some (.written (.list []))

/-- The defaults of a call. -/
def Call.defaults : (p : Protocol) → Call.Sketch p
  | .http => { method := .value "GET", url := .value "", bodyType := .null, body := .null }
  | .grpc => { url := .value "", service := .null, method := .null, message := .value "" }

/-- The defaults of the columns in which results differ. -/
def Detail.defaults : (p : Protocol) → Detail.Sketch p
  | .http => { body := .null }
  | .grpc => { service := .null, method := .null }

/-- The defaults of a kind. A workspace and a request that a record belongs to have none. -/
def Columns.defaults : (k : Kind) → Sketch k
  | .workspace => { name := .value "", settings := Settings.defaults }
  | .folder =>
    { folderId := .null, name := .value "", sortPriority := .value 0.0
      settings := Settings.defaults }
  | .request p =>
    { folderId := .null, name := .value "", call := Call.defaults p, sortPriority := .value 0.0
      settings := Settings.defaults }
  | .exchange p =>
    -- a connection counts as open until its status is known
    { status := .value (match p with | .http => 0 | .grpc => -1), elapsedMs := .value 0
      detail := Detail.defaults p }

/-- Settings with nothing in any column. -/
def Settings.blank : Settings.Sketch where
  authenticationType := .null
  authentication := some (.written .null)
  entries := some (.written .null)

/-- A draft with nothing in any column. -/
def Columns.blank : (k : Kind) → Sketch k
  | .workspace => { name := .null, settings := Settings.blank }
  | .folder =>
    { workspaceId := .null, folderId := .null, name := .null, sortPriority := .null
      settings := Settings.blank }
  | .request .http =>
    { workspaceId := .null, folderId := .null, name := .null, sortPriority := .null
      call := { method := .null, url := .null, bodyType := .null, body := .null }
      settings := Settings.blank }
  | .request .grpc =>
    { workspaceId := .null, folderId := .null, name := .null, sortPriority := .null
      call := { url := .null, service := .null, method := .null, message := .null }
      settings := Settings.blank }
  | .exchange .http =>
    { workspaceId := .null, requestId := .null, status := .null, elapsedMs := .null
      detail := { body := .null } }
  | .exchange .grpc =>
    { workspaceId := .null, requestId := .null, status := .null, elapsedMs := .null
      detail := { service := .null, method := .null } }

/-- Settings as a draft that gives every column. -/
def Settings.sketch (s : Settings) : Settings.Sketch where
  authenticationType := .ofOption s.authenticationType
  authentication := some s.authentication
  entries := some s.entries

/-- A call as a draft that gives every column. -/
def Call.sketch : {p : Protocol} → Call p → Call.Sketch p
  | .http, c =>
    { method := .value c.method, url := .value c.url, bodyType := .ofOption c.bodyType
      body := .ofOption c.body }
  | .grpc, c =>
    { url := .value c.url, service := .ofOption c.service, method := .ofOption c.method
      message := .value c.message }

/-- The differing columns of a result as a draft that gives them all. -/
def Detail.sketch : {p : Protocol} → Detail p → Detail.Sketch p
  | .http, d => { body := .ofOption d.body }
  | .grpc, d => { service := .ofOption d.service, method := .ofOption d.method }

/-- The columns of a record as a draft that gives every one of them. -/
def Columns.sketch : {k : Kind} → Columns k → Sketch k
  | .workspace, w => { name := .value w.name, settings := w.settings.sketch }
  | .folder, f =>
    { workspaceId := .value f.workspaceId, folderId := .ofOption f.folderId
      name := .value f.name, sortPriority := .value f.sortPriority
      settings := f.settings.sketch }
  | .request _, r =>
    { workspaceId := .value r.workspaceId, folderId := .ofOption r.folderId
      name := .value r.name, call := Call.sketch r.call
      sortPriority := .value r.sortPriority, settings := r.settings.sketch }
  | .exchange _, e =>
    { workspaceId := .value e.workspaceId, requestId := .value e.requestId
      status := .value e.status, elapsedMs := .value e.elapsedMs
      detail := Detail.sketch e.detail }

/-- A stored record as a draft, its identifier included. -/
def Row.draft {k : Kind} (row : Row k) : Draft k where
  id := .value row.id
  data := Columns.sketch row.data

/-- A copy of settings. Free-form values are put together anew. -/
def Settings.Sketch.copy (s : Settings.Sketch) : Settings.Sketch :=
  { s with
    authentication := s.authentication.map FreeForm.loosened
    entries := s.entries.map FreeForm.loosened }

/-- A copy of a draft of any kind. -/
def Sketch.copy : {k : Kind} → Sketch k → Sketch k
  | .workspace, s => { s with settings := s.settings.copy }
  | .folder, s => { s with settings := s.settings.copy }
  | .request _, s => { s with settings := s.settings.copy }
  | .exchange _, s => s

/-- The height of the highest free-form value of a draft. -/
def Settings.Sketch.height (s : Settings.Sketch) : Nat :=
  let height (f : Option FreeForm) : Nat := f.elim 0 fun f => f.value.height
  max (height s.authentication) (height s.entries)

/-- The height of the highest free-form value of a draft of any kind. -/
def Sketch.height : {k : Kind} → Sketch k → Nat
  | .workspace, s => s.settings.height
  | .folder, s => s.settings.height
  | .request _, s => s.settings.height
  | .exchange _, _ => 0

/-- How high a free-form value may be that is copied. -/
def Sketch.greatestCopied : Nat := 496

/-- A copy of a draft in which every column is set: what was left out is nothing. -/
def Draft.settled {k : Kind} (d : Draft k) : Draft k where
  id := d.id.laidOver .null
  data := Sketch.copy (Sketch.over Given.laidOver d.data (Columns.blank k))

/-! ### From a draft to columns -/

/-- The settings of a completed draft. Nothing here can be missing. -/
def Settings.Sketch.complete (s : Settings.Sketch) : Settings where
  authenticationType := s.authenticationType.toOption
  authentication := s.authentication.getD (.written .null)
  entries := s.entries.getD (.written .null)

/-- The form in which settings are kept. -/
def Settings.kept (s : Settings) : Settings :=
  { s with authentication := s.authentication.kept, entries := s.entries.kept }

/-- What is kept once is kept as it is from then on. -/
@[simp] theorem Settings.kept_kept (s : Settings) : s.kept.kept = s.kept := by
  simp [Settings.kept]

/-- The call of a completed draft, unless a column that must not be empty is. -/
def Call.Sketch.columns? : {p : Protocol} → Call.Sketch p → Except Violation (Call p)
  | .http, s => do
    let method ← s.method.required (.request .http) "method"
    let url ← s.url.required (.request .http) "url"
    return { method, url, bodyType := s.bodyType.toOption, body := s.body.toOption }
  | .grpc, s => do
    let url ← s.url.required (.request .grpc) "url"
    let message ← s.message.required (.request .grpc) "message"
    return { url, service := s.service.toOption, method := s.method.toOption, message }

/-- The differing columns of a completed draft of a result. -/
def Detail.Sketch.complete : {p : Protocol} → Detail.Sketch p → Detail p
  | .http, s => { body := s.body.toOption }
  | .grpc, s => { service := s.service.toOption, method := s.method.toOption }

/-- The columns of a completed draft, unless one that must not be empty is. The first
    such column is named, in the order of the table. -/
def Sketch.columns? : {k : Kind} → Sketch k → Except Violation (Columns k)
  | .workspace, s => do
    let name ← s.name.required .workspace "name"
    return { name, settings := s.settings.complete.kept }
  | .folder, s => do
    let workspaceId ← s.workspaceId.required .folder "workspace_id"
    let name ← s.name.required .folder "name"
    let sortPriority ← s.sortPriority.keptPriority.required .folder "sort_priority"
    return { workspaceId, folderId := s.folderId.toOption, name, sortPriority
             settings := s.settings.complete.kept }
  | .request p, s => do
    let workspaceId ← s.workspaceId.required (.request p) "workspace_id"
    let name ← s.name.required (.request p) "name"
    let call ← Call.Sketch.columns? s.call
    let sortPriority ← s.sortPriority.keptPriority.required (.request p) "sort_priority"
    return { workspaceId, folderId := s.folderId.toOption, name, call, sortPriority
             settings := s.settings.complete.kept }
  | .exchange p, s => do
    let workspaceId ← s.workspaceId.required (.exchange p) "workspace_id"
    let requestId ← s.requestId.required (.exchange p) "request_id"
    let status ← s.status.required (.exchange p) "status"
    let elapsedMs ← s.elapsedMs.required (.exchange p) "elapsed_ms"
    return { workspaceId, requestId, status, elapsedMs, detail := Detail.Sketch.complete s.detail }

/-- The whole numbers that a draft gives fit into the columns that would keep them. -/
def Sketch.numbersFit : {k : Kind} → Sketch k → Bool
  | .exchange _, s => s.status.toOption.all fits64 && s.elapsedMs.toOption.all fits64
  | .workspace, _ | .folder, _ | .request _, _ => true

/-- How many lists and objects may stand inside each other in a free-form column. -/
def Settings.greatestNesting : Nat := 970

/-- What keeps settings from being put in writing. -/
def Settings.Sketch.obstacle? (s : Settings.Sketch) : Option Json.Obstacle :=
  let obstacle? (f : Option FreeForm) : Option Json.Obstacle :=
    f.bind fun f => f.value.obstacle? Settings.greatestNesting
  obstacle? s.authentication <|> obstacle? s.entries

/-- What keeps the free-form columns of a draft from being put in writing. -/
def Sketch.obstacle? : {k : Kind} → Sketch k → Option Json.Obstacle
  | .workspace, s => s.settings.obstacle?
  | .folder, s => s.settings.obstacle?
  | .request _, s => s.settings.obstacle?
  | .exchange _, _ => none

end RequestCatalog
