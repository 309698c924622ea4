import RequestCatalog.Catalog
import RequestCatalog.Inheritance
import RequestCatalog.Priority

/-! # Working with requests

  Copying a request, deleting it with what came back from it, and asking what it
  inherits. Everything here is the same for both protocols.
-/

namespace RequestCatalog

/-! ### Subjects -/

/-- What an operation is about: a stored record, or a draft that was never stored. -/
inductive Subject (k : Kind) where
  /-- The stored record of this identifier. -/
  | stored (id : String)
  /-- A draft. -/
  | unsaved (d : Draft k)

namespace Op

/-- The stored record of this identifier. -/
def fetch (k : Kind) (id : String) : Op (Row k) :=
  consult fun s => s.fetch k (some id)

/-- The subject as a draft. A stored record gives every column. -/
def draftOf {k : Kind} : Subject k → Op (Draft k)
  | .stored id => return (← fetch k id).draft
  | .unsaved d => return d

/-- The subject as a node. -/
def nodeOf {k : Kind} : Subject k → Op Node
  | .stored id => return (← fetch k id).node
  | .unsaved d => return d.node

/-- Ask a question that is answered by walking up the folders. A loop that the walk meets
    is reported before the question fails. -/
def askUpwards {α : Type} (question : Store → Except Fault α) : Op α := do
  match question (← get).store with
  | .ok a => return a
  | .error (.folderCycle id) =>
    note (.circularChain id)
    throw (.folderCycle id)
  | .error fault => throw fault

/-! ### Copying -/

/-- A copy of a draft in which every column is set. Free-form values are copied part by part. -/
def copy {k : Kind} (d : Draft k) : Op (Draft k) :=
  if d.data.height ≤ Sketch.greatestCopied then return d.settled else throw .tooDeep

/-- The requests among which a request stands: those of its workspace that lie in the
    same folder. -/
def siblings {p : Protocol} (s : Store) (d : Draft (.request p)) : List (Row (.request p)) :=
  (s.requestsOf p d.data.workspaceId.toOption).filter fun r =>
    r.data.folderId == d.data.folderId.toOption

/-- A stored request as far as its place among its siblings matters. -/
def placed {p : Protocol} (r : Row (.request p)) : Placed :=
  ⟨some r.id, r.requestPriority⟩

/-- Copy a request. The copy gets a new identifier and the place right after its source;
    no other request changes. A draft without a priority has no place to put a copy behind,
    which shows only once its siblings were searched for it. -/
def duplicate {p : Protocol} (d : Draft (.request p)) (source : String) :
    Op (Row (.request p)) := do
  let copied ← copy d
  let others ← ask fun s => (siblings s d).map placed
  match d.data.sortPriority with
  | .value priority =>
    let (place, notices) := Priority.after ⟨d.id.toOption, priority⟩ others
    notices.forM note
    let copied : Draft (.request p) :=
      { id := .value "", data := { copied.data with sortPriority := .value place } }
    let stored ← upsert copied source
    note (.copied p d.id.toOption stored.id stored.data.sortPriority)
    return stored
  | _ =>
    if !others.any (·.id == d.id.toOption) then
      note (.strayAnchor d.id.toOption Priority.strayOffset)
    throw .noPriority

/-! ### Deleting -/

/-- Delete several records one by one. -/
def deleteAll {k : Kind} (source : String) : List (Row k) → Op (List (Row k))
  | [] => return []
  | row :: rest => do
    let deleted ← delete row source
    return deleted :: (← deleteAll source rest)

/-- Delete everything that came back from a request. -/
def deleteExchanges (p : Protocol) (requestId : String) (source : String) :
    Op (List (Row (.exchange p))) := do
  deleteAll source (← ask fun s => s.exchangesOf p requestId)

/-- Delete a stored request after everything that came back from it. -/
def deleteRequest {p : Protocol} (r : Row (.request p)) (source : String) :
    Op (Row (.request p)) := do
  let _ ← deleteExchanges p r.id source
  delete r source

end Op

end RequestCatalog
