import RequestCatalog.Record.Draft

/-! # The store

  Six tables of records, each in the order in which its records first arrived.
  Writing a record that is already there keeps its place; a new one goes last.

  A write is refused, and changes nothing, when a column that must not be empty is,
  or else when a reference of the record names no record. A record may name itself.
-/

namespace RequestCatalog

/-- The six tables. -/
structure Store where
  /-- The workspaces. -/
  workspaces : List (Row .workspace) := []
  /-- The folders of all workspaces. -/
  folders : List (Row .folder) := []
  /-- The HTTP requests. -/
  httpRequests : List (Row (.request .http)) := []
  /-- The gRPC requests. -/
  grpcRequests : List (Row (.request .grpc)) := []
  /-- What came back from HTTP requests. -/
  httpResponses : List (Row (.exchange .http)) := []
  /-- What came back from gRPC requests. -/
  grpcConnections : List (Row (.exchange .grpc)) := []

namespace Store

/-- A store without records. -/
def empty : Store := {}

/-! ### Tables by kind -/

/-- The records of a kind. -/
def rows (s : Store) : (k : Kind) → List (Row k)
  | .workspace => s.workspaces
  | .folder => s.folders
  | .request .http => s.httpRequests
  | .request .grpc => s.grpcRequests
  | .exchange .http => s.httpResponses
  | .exchange .grpc => s.grpcConnections

/-- Replace all records of a kind. -/
def setRows (s : Store) : (k : Kind) → List (Row k) → Store
  | .workspace, rows => { s with workspaces := rows }
  | .folder, rows => { s with folders := rows }
  | .request .http, rows => { s with httpRequests := rows }
  | .request .grpc, rows => { s with grpcRequests := rows }
  | .exchange .http, rows => { s with httpResponses := rows }
  | .exchange .grpc, rows => { s with grpcConnections := rows }

@[simp] theorem rows_setRows_self (s : Store) (k : Kind) (rows : List (Row k)) :
    (s.setRows k rows).rows k = rows := by
  rcases k with _ | _ | (_ | _) | (_ | _) <;> rfl

/-- Replacing the records of one kind leaves the other tables as they were. -/
theorem rows_setRows_ne (s : Store) {k l : Kind} (h : l ≠ k) (rows : List (Row k)) :
    (s.setRows k rows).rows l = s.rows l := by
  rcases k with _ | _ | (_ | _) | (_ | _) <;> rcases l with _ | _ | (_ | _) | (_ | _) <;>
    first | rfl | exact absurd rfl h

/-- Two stores with the same tables are the same. -/
theorem ext_rows {s t : Store} (h : ∀ k, s.rows k = t.rows k) : s = t := by
  obtain ⟨w, f, hr, gr, hx, gx⟩ := s
  obtain ⟨w', f', hr', gr', hx', gx'⟩ := t
  have hw : w = w' := h .workspace
  have hf : f = f' := h .folder
  have hhr : hr = hr' := h (.request .http)
  have hgr : gr = gr' := h (.request .grpc)
  have hhx : hx = hx' := h (.exchange .http)
  have hgx : gx = gx' := h (.exchange .grpc)
  subst hw hf hhr hgr hhx hgx
  rfl

/-! ### Looking records up -/

/-- The record of this kind and identifier. -/
def get? (s : Store) (k : Kind) (id : String) : Option (Row k) :=
  (s.rows k).find? (·.id == id)

/-- The store holds the record that is referred to. -/
def holds (s : Store) (key : Key) : Bool :=
  (s.rows key.kind).any (·.id == key.id)

theorem get?_isSome (s : Store) (k : Kind) (id : String) :
    (s.get? k id).isSome = s.holds ⟨k, id⟩ := by
  simp only [get?, holds]
  exact List.isSome_find?

/-- The records of all kinds as others refer to them, each with what it refers to. -/
def entries (s : Store) : List (Key × List Key) :=
  Kind.all.flatMap fun k => (s.rows k).map fun row => (row.key, row.refs)

/-! ### Writing a record -/

/-- Put a record into its table: in the place of the one with its identifier, else last. -/
def put {k : Kind} (s : Store) (row : Row k) : Store :=
  if s.holds row.key then
    s.setRows k ((s.rows k).map fun old => if old.id == row.id then row else old)
  else
    s.setRows k (s.rows k ++ [row])

/-- The record that a write would store: over the record of that identifier if there is
    one, else with the defaults of its kind. -/
def candidate (s : Store) {k : Kind} (id : String) (data : Sketch k) (now : Instant) :
    Except Violation (Row k) :=
  match s.get? k id with
  | some old => do
    let columns ← Sketch.columns? (Sketch.over Given.laidOver data (Columns.sketch old.data))
    return { id, data := columns, createdAt := old.createdAt, updatedAt := now }
  | none => do
    let columns ← Sketch.columns? (Sketch.over Given.filledFrom data (Columns.defaults k))
    return { id, data := columns, createdAt := now, updatedAt := now }

/-- Every reference of the record names a record of the store, or the record itself. -/
def resolvesRefs (s : Store) {k : Kind} (row : Row k) : Bool :=
  row.refs.all fun ref => ref == row.key || s.holds ref

/-- Write a draft under an identifier. The record comes back with the new store. -/
def write (s : Store) {k : Kind} (id : String) (data : Sketch k) (now : Instant) :
    Except Violation (Row k × Store) := do
  let row ← s.candidate id data now
  if s.resolvesRefs row then
    return (row, s.put row)
  else
    throw .danglingReference

/-! ### Records that satisfy a condition -/

/-- Keep the records that satisfy a condition, in every table. -/
def keep (s : Store) (condition : Key → Bool) : Store where
  workspaces := s.workspaces.filter fun row => condition row.key
  folders := s.folders.filter fun row => condition row.key
  httpRequests := s.httpRequests.filter fun row => condition row.key
  grpcRequests := s.grpcRequests.filter fun row => condition row.key
  httpResponses := s.httpResponses.filter fun row => condition row.key
  grpcConnections := s.grpcConnections.filter fun row => condition row.key

@[simp] theorem rows_keep (s : Store) (condition : Key → Bool) (k : Kind) :
    (s.keep condition).rows k = (s.rows k).filter fun row => condition row.key := by
  rcases k with _ | _ | (_ | _) | (_ | _) <;> rfl

end Store

end RequestCatalog
