import RequestCatalog.Api.Service

/-! # Sessions

  A session starts with an empty catalogue and takes one step after another: an
  operation of the catalogue, a question about it, or a call from outside. Every step
  has its own time, one second after the step before or whatever time it names. A step
  that fails leaves what it wrote, and the session goes on.
-/

namespace RequestCatalog

/-! ### Steps -/

/-- One step of a session. -/
inductive Step where
  /-- Insert or update a record. -/
  | upsert (k : Kind) (d : Draft k) (source : String)
  /-- Insert or update a record that is handed on with garbled texts. -/
  | save (k : Kind) (d : Draft k) (garbled : List (String × Text)) (source : String)
  /-- Find the first record with a value in a column. -/
  | findOne (k : Kind) (column : String) (value : Json)
  /-- Find the records with a value in a column. -/
  | findMany (k : Kind) (column : String) (value : Json) (limit : Option Int)
  /-- Delete a record and everything that depends on it. -/
  | delete (k : Kind) (id : String) (source : String)
  /-- Copy the columns of a record without storing the copy. -/
  | clone (k : Kind) (subject : Subject k)
  /-- A folder and the folders above it. -/
  | folderChain (subject : Subject .folder)
  /-- The authentication of a folder. -/
  | folderAuthentication (subject : Subject .folder)
  /-- The entries of a folder. -/
  | folderEntries (subject : Subject .folder)
  /-- The authentication of a workspace. -/
  | workspaceAuthentication (subject : Subject .workspace)
  /-- The entries of a workspace. -/
  | workspaceEntries (subject : Subject .workspace)
  /-- Whether a new parent would close a loop of folders. -/
  | wouldLoop (folderId : String) (parent : Option String)
  /-- A request. -/
  | getRequest (p : Protocol) (id : String)
  /-- The requests of a workspace. -/
  | listRequests (p : Protocol) (workspaceId : Option String)
  /-- The requests in a folder and below it. -/
  | listContents (p : Protocol) (folderId : String)
  /-- Delete a request after what came back from it. -/
  | deleteRequest (p : Protocol) (id : String) (source : String)
  /-- Delete what came back from a request. -/
  | deleteExchanges (p : Protocol) (id : String) (source : String)
  /-- Insert or update a request. -/
  | upsertRequest (p : Protocol) (subject : Subject (.request p)) (source : String)
  /-- Copy a request and store the copy. -/
  | duplicate (p : Protocol) (subject : Subject (.request p)) (source : String)
  /-- The authentication of a request. -/
  | requestAuthentication (p : Protocol) (subject : Subject (.request p))
  /-- The entries of a request. -/
  | requestEntries (p : Protocol) (subject : Subject (.request p))
  /-- All records of all kinds. -/
  | dump
  /-- A call from outside. -/
  | call (incoming : Api.Incoming)
  /-- A step about a record that cannot be made, for this reason. -/
  | refused (fault : Fault)

/-- What a step comes to. -/
inductive Outcome where
  /-- A value. -/
  | value (j : Json)
  /-- A reply to a call. -/
  | reply (r : Api.Reply)

namespace Outcome

/-- A stored record. -/
def row {k : Kind} (r : Row k) : Outcome := .value r.document

/-- The identifiers of records. -/
def ids {k : Kind} (rows : List (Row k)) : Outcome :=
  .value (.list (rows.map fun r => .text r.id))

/-- Authentication with its owner. -/
def authentication (a : Authentication) : Outcome :=
  .value (.object [("authentication_type", .ofText? a.authenticationType),
    ("authentication", a.members.toObject), ("owner_id", .ofText? a.ownerId)])

/-- Entries as they were stored. -/
def entries (es : List Json) : Outcome := .value (.list es)

/-- All records of all kinds, by the name of the kind. -/
def tables (s : Store) : Outcome :=
  .value (.object (Kind.all.map fun k => (k.title, .list ((s.rows k).map Row.document))))

end Outcome

/-- Take a step. -/
def Step.run : Step → Op Outcome
  | .upsert _ d source => return .row (← Op.upsert d source)
  | .save _ d garbled source => return .row (← Op.save d garbled source)
  | .findOne k column value => return .row (← Op.consult (·.findOne k column value))
  | .findMany k column value limit => do
    return .ids (← Op.consult (·.findMany k column value limit))
  | .delete k id source => do
    let row ← Op.delete (← Op.fetch k id) source
    return .value (.text row.id)
  | .clone _ subject => do
    let draft ← Op.draftOf subject
    return .value (← Op.copy draft).document
  | .folderChain subject => do
    let folder ← Op.nodeOf subject
    let chain ← Op.askUpwards (·.chain folder)
    return .value (.list (chain.map fun n => .ofText? n.id))
  | .folderAuthentication subject => do
    let folder ← Op.nodeOf subject
    return .authentication (← Op.askUpwards (·.folderAuthentication folder))
  | .folderEntries subject => do
    let folder ← Op.nodeOf subject
    return .entries (← Op.askUpwards (·.folderEntries folder))
  | .workspaceAuthentication subject => do
    let workspace ← Op.nodeOf subject
    return .authentication (← Op.consult fun _ => workspace.authentication)
  | .workspaceEntries subject => do
    let workspace ← Op.nodeOf subject
    return .entries (← Op.consult fun _ => workspace.entries)
  | .wouldLoop folderId parent => return .value (.bool (← Op.ask (·.wouldLoop folderId parent)))
  | .getRequest p id => return .row (← Op.fetch (.request p) id)
  | .listRequests p workspaceId => return .ids (← Op.ask (·.requestsOf p workspaceId))
  | .listContents p folderId => return .ids (← Op.consult (·.requestsUnder p folderId))
  | .deleteRequest p id source => do
    let row ← Op.deleteRequest (← Op.fetch (.request p) id) source
    return .value (.text row.id)
  | .deleteExchanges p id source => return .ids (← Op.deleteExchanges p id source)
  | .upsertRequest _ subject source => do
    return .row (← Op.upsert (← Op.draftOf subject) source)
  | .duplicate _ subject source => do
    return .row (← Op.duplicate (← Op.draftOf subject) source)
  | .requestAuthentication _ subject => do
    let request ← Op.nodeOf subject
    return .authentication (← Op.askUpwards (·.requestAuthentication request))
  | .requestEntries _ subject => do
    let request ← Op.nodeOf subject
    return .entries (← Op.askUpwards (·.requestEntries request))
  | .dump => return .tables (← get).store
  | .call incoming => return .reply (← Api.serve incoming)
  | .refused fault => throw fault

/-! ### Runs -/

/-- A step with the time it names, if it names one. -/
structure TimedStep where
  /-- The time, in seconds. -/
  at? : Option Int
  /-- The step. -/
  step : Step

/-- What a step answers: what it comes to or why it fails, and what was reported. -/
structure Answer where
  /-- What the step comes to, or why it fails. -/
  outcome : Except Fault Outcome
  /-- What was reported, in order. -/
  journal : List Notice

/-- Take a step at its time, with an empty journal. -/
def TimedStep.take (t : TimedStep) (c : Catalog) : Answer × Catalog :=
  let now : Instant := ⟨t.at?.getD (c.now.seconds + 1)⟩
  match t.step.run { c with now, journal := [] } with
  | .ok outcome c => (⟨.ok outcome, c.journal⟩, c)
  | .error fault c => (⟨.error fault, c.journal⟩, c)

/-- The answers of a run, and the catalogue that it leaves. -/
def runFrom (c : Catalog) : List TimedStep → List Answer × Catalog
  | [] => ([], c)
  | t :: rest =>
    let (answer, c) := t.take c
    let (answers, c) := runFrom c rest
    (answer :: answers, c)

/-- The answers of a session. -/
def session (steps : List TimedStep) : List Answer :=
  (runFrom {} steps).1

end RequestCatalog
