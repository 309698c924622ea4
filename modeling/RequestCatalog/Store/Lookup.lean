import RequestCatalog.Store
import RequestCatalog.Record.Document
import RequestCatalog.Fault

/-! # Looking records up

  Records are looked up by the value of a column, in the order of their table. By
  identifier there is at most one; looking for one that is not there is a fault.
-/

namespace RequestCatalog

namespace Store

/-- Names that are no columns but stand for something that every kind of record has. No value
    agrees with it. -/
def occupied : List String :=
  ["metadata", "registry", "mro", "_sa_class_manager", "_sa_registry", "__annotations__",
   "__base__", "__bases__", "__call__", "__class__", "__class_getitem__", "__delattr__",
   "__dict__", "__dir__", "__doc__", "__eq__", "__flags__", "__format__", "__ge__",
   "__getattribute__", "__getstate__", "__gt__", "__hash__", "__init__", "__init_subclass__",
   "__instancecheck__", "__le__", "__lt__", "__mapper__", "__mro__", "__ne__", "__new__",
   "__or__", "__orig_bases__", "__parameters__", "__prepare__", "__reduce__", "__reduce_ex__",
   "__repr__", "__ror__", "__setattr__", "__sizeof__", "__slots__", "__str__",
   "__subclasscheck__", "__subclasses__", "__subclasshook__", "__table__", "__weakref__"]

/-- Where a kind of record is described: its place among the descriptions, and the name of its
    table for a single record. -/
def describedIn (k : Kind) : String :=
  "request_collections.models." ++ String.ofList k.table.toList.dropLast

/-- What a name that is no column stands for, the same for all records of a kind: a value, or
    something that no value agrees with. -/
def fixed? (k : Kind) : String → Option (Option Json)
  | "id_prefix" => some (some (.text k.stem))
  | "__tablename__" => some (some (.text k.table))
  | "__name__" | "__qualname__" => some (some (.text k.title))
  | "__module__" => some (some (.text (describedIn k)))
  | "__text_signature__" => some (some .null)
  | "_is_protocol" => some (some (.bool false))
  | "__itemsize__" => some (some (.int 0))
  | "__basicsize__" => some (some (.int 24))
  | "__weakrefoffset__" => some (some (.int 16))
  | "__dictoffset__" => some (some (.int (-48)))
  | name => if name ∈ occupied then some none else none

/-- Whether a record of this kind holds the value that is looked up. -/
def condition (l : Lookup) (value : Json) : Except Fault (Row l.kind → Bool) :=
  match l.kind.columnType? l.column, fixed? l.kind l.column with
  | some type, _ =>
    match type.seek value with
    | .ok sought => .ok fun row => row.agrees l.column sought
    | .error unfit => .error (.unseekable l unfit)
  | none, some fixed => .ok fun _ => fixed.any fun fixed => fixed.agrees false value
  | none, none => .error (.unknownColumn l.kind l.column)

/-- As many of the records as the limit allows; a negative limit allows all. -/
def atMost {α : Type} (limit : Option Int) (rows : List α) : List α :=
  match limit with
  | some n => if n < 0 then rows else rows.take n.toNat
  | none => rows

/-- The records with this value in this column, as many as the limit allows. The limit is a
    whole number of 64 bits. -/
def findMany (s : Store) (k : Kind) (column : String) (value : Json) (limit : Option Int) :
    Except Fault (List (Row k)) := do
  let condition ← condition ⟨k, column, limit.isSome⟩ value
  if limit.all fits64 then return atMost limit ((s.rows k).filter condition)
  else throw (.unfit .tooLarge)

/-- The first record with this value in this column. -/
def findOne (s : Store) (k : Kind) (column : String) (value : Json) : Except Fault (Row k) := do
  let condition ← condition ⟨k, column, true⟩ value
  match (s.rows k).find? condition with
  | some row => return row
  | none => throw (.notFound k value)

/-- The record of this identifier. No record is found where none is named. -/
def fetch (s : Store) (k : Kind) (id : Option String) : Except Fault (Row k) :=
  match id.bind (s.get? k) with
  | some row => .ok row
  | none => .error (.notFound k (.ofText? id))

theorem fetch_some (s : Store) (k : Kind) (id : String) :
    s.fetch k (some id) =
      match s.get? k id with
      | some row => .ok row
      | none => .error (.notFound k (.text id)) := rfl

/-- The requests of a workspace. Where no workspace is named there are none. -/
def requestsOf (s : Store) (p : Protocol) (workspaceId : Option String) :
    List (Row (.request p)) :=
  (s.rows (.request p)).filter fun r => some r.data.workspaceId == workspaceId

/-- The requests directly in a folder. -/
def requestsIn (s : Store) (p : Protocol) (folderId : String) : List (Row (.request p)) :=
  (s.rows (.request p)).filter fun r => r.data.folderId == some folderId

/-- What came back from the calls of a request. -/
def exchangesOf (s : Store) (p : Protocol) (requestId : String) : List (Row (.exchange p)) :=
  (s.rows (.exchange p)).filter fun e => e.data.requestId == requestId

/-- The folders of a workspace. -/
def foldersOf (s : Store) (workspaceId : String) : List (Row .folder) :=
  s.folders.filter fun f => f.data.workspaceId == workspaceId

end Store

end RequestCatalog
