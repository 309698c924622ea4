import RequestCatalog.Record.Document

/-! # Lookups in writing

  The tables are asked in writing: which columns of which table are wanted, and which column
  has to hold a value. The value itself is handed over beside the writing. Where it cannot
  be handed over, the complaint quotes the writing.
-/

namespace RequestCatalog

/-- A lookup of the records that hold a value in a column. -/
structure Lookup where
  /-- The kind of records. -/
  kind : Kind
  /-- The name of the column. -/
  column : String
  /-- There is a limit to the number of records. -/
  limited : Bool
  deriving DecidableEq, Repr

namespace Lookup

/-- The name that a column has in its table. -/
def tableColumn (column : String) : String :=
  if column = Kind.entriesColumn (.request .grpc) then "metadata" else column

/-- The columns of a table, in its order. -/
def columns (k : Kind) : List String :=
  (Draft.held (⟨.null, Columns.blank k⟩ : Draft k)).map fun (name, _) => tableColumn name

/-- The lookup in writing. A question mark stands for a value that is handed over. -/
def statement (l : Lookup) : String :=
  let table := l.kind.table
  let wanted (column : String) : String :=
    table ++ "." ++ column ++ " AS " ++ table ++ "_" ++ column
  "SELECT " ++ ", ".intercalate ((columns l.kind).map wanted) ++
    " \nFROM " ++ table ++
    " \nWHERE " ++ table ++ "." ++ tableColumn l.column ++ " = ?" ++
    if l.limited then "\n LIMIT ? OFFSET ?" else ""

/-- The complaint about a value that cannot be handed over. -/
def complaint (l : Lookup) (u : Unfit) : String :=
  if u.isAboutSeeking then
    "(builtins.TypeError) " ++ u.message ++ "\n[SQL: " ++ l.statement ++
      "]\n[parameters: [\x7b\x7d]]"
  else u.message

example : columns (.exchange .grpc) =
    ["id", "workspace_id", "request_id", "service", "method", "status", "elapsed_ms",
      "created_at", "updated_at"] := by decide +kernel

end Lookup

end RequestCatalog
