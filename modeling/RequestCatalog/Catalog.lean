import RequestCatalog.Store.Cascade
import RequestCatalog.Store.Lookup
import RequestCatalog.Notice
import RequestCatalog.Text.Hex

/-! # The catalogue at work

  The state of a running catalogue and the operations that change it. An operation
  may fail; what it wrote and reported before it failed stays.

  The origin of a write is looked at last, when the write is reported. So a write
  that names an origin which does not exist fails after it took effect.
-/

namespace RequestCatalog

/-- A running catalogue. -/
structure Catalog where
  /-- Its records. -/
  store : Store := .empty
  /-- The identifiers made so far, in order, each with the kind of record it was made for. -/
  issued : List Key := []
  /-- The digits of the `n`-th identifier. No operation depends on how they are chosen. -/
  digits : Nat → String := fun n => String.ofList (hexDigits 10 n)
  /-- The time at which the operation runs. -/
  now : Instant := ⟨0⟩
  /-- What the operation reported so far. -/
  journal : List Notice := []

/-- The identifier that the next record of a kind gets if it names none. -/
def Catalog.nextId (c : Catalog) (k : Kind) : String :=
  k.identifier (c.digits (c.issued.length + 1))

/-- An operation on a running catalogue. -/
abbrev Op := EStateM Fault Catalog

namespace Op

/-- Report something. -/
def note (notice : Notice) : Op Unit :=
  modify fun c => { c with journal := c.journal ++ [notice] }

/-- Report a write with its origin, which has to exist. -/
def noteFrom (source : String) (notice : Source → Notice) : Op Unit :=
  match Source.ofName? source with
  | some known => note (notice known)
  | none => throw (.unknownSource source)

/-- Ask the store something. -/
def ask {α : Type} (question : Store → α) : Op α :=
  return question (← get).store

/-- Ask the store something that may have no answer. -/
def consult {α : Type} (question : Store → Except Fault α) : Op α := do
  match question (← get).store with
  | .ok a => return a
  | .error fault => throw fault

/-- A new identifier. -/
def freshId (k : Kind) : Op String := do
  let id := (← get).nextId k
  modify fun c => { c with issued := c.issued ++ [⟨k, id⟩] }
  return id

/-- The identifier a draft names, or a new one if it names none. -/
def idFor {k : Kind} (d : Draft k) : Op String :=
  match d.id with
  | .value id => if id.isEmpty then freshId k else return id
  | _ => freshId k

/-- A garbled text cannot be looked up. -/
def demand (garbled : List (String × Text)) (field : String) : Except Fault Unit :=
  match garbled.lookup field with
  | some t => .error (.unfit (.garbled t))
  | none => .ok ()

/-- The identifier of a draft whose values the tables can be handed. With the draft come the
    fields whose text is garbled, each with its text; the draft has nothing of them. Such a value
    is found before anything else is looked at, and so is one that cannot be put in writing and a
    number that is too large. -/
def prepare {k : Kind} (d : Draft k) (garbled : List (String × Text)) : Op String := do
  consult fun _ => demand garbled "id"
  let id ← idFor d
  match d.data.obstacle? with
  | some o => throw (.violation (.unwritable o))
  | none =>
    match d.data.unfit? garbled with
    | some u => throw (.unfit u)
    | none => return id

/-- Insert or update a record that is handed on with these garbled texts. -/
def save {k : Kind} (d : Draft k) (garbled : List (String × Text)) (source : String) :
    Op (Row k) := do
  let id ← prepare d garbled
  let c ← get
  match c.store.write id d.data c.now with
  | .error v => throw (.violation v)
  | .ok (row, store) =>
    set { c with store }
    noteFrom source (.written k row.id)
    return row

/-- Insert or update a record. -/
def upsert {k : Kind} (d : Draft k) (source : String) : Op (Row k) := save d [] source

/-- Delete a stored record and everything that depends on it. Where the tables refuse, nothing
    goes and the origin is not looked at. -/
def delete {k : Kind} (row : Row k) (source : String) : Op (Row k) := do
  let c ← get
  match c.store.erase row.key with
  | .error v => throw (.violation v)
  | .ok store =>
    set { c with store }
    noteFrom source (.deleted k row.id)
    return row

end Op

end RequestCatalog
