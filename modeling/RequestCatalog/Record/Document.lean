import RequestCatalog.Record.Column
import RequestCatalog.Record.Draft

/-! # Records by column name

  Callers name columns by text, to look records up and to read them. Here every column of
  every kind gets its name. A document lists all of them, and a column can be found by its
  name in any record of its kind, or in none.
-/

namespace RequestCatalog

/-- The name of the column that holds the entries of a kind of record. -/
def Kind.entriesColumn : Kind → String
  | .request .grpc => "metadata_"
  | _ => "headers"

/-! ### Columns of drafts -/

/-- A text that a draft gives; what is left out is nothing. -/
def Given.text (g : Given String) : Held := .text g.toOption

/-- A whole number that a draft gives. -/
def Given.whole (g : Given Int) : Held := .whole g.toOption

/-- A priority that a draft gives. -/
def Given.priority (g : Given Float) : Held := .priority g.toOption

/-- The columns of settings. -/
def Settings.Sketch.held (k : Kind) (s : Settings.Sketch) : List (String × Held) :=
  [("authentication_type", s.authenticationType.text),
   ("authentication", .freeForm (s.authentication.getD (.written .null))),
   (k.entriesColumn, .freeForm (s.entries.getD (.written .null)))]

/-- The columns of a call. -/
def Call.Sketch.held : {p : Protocol} → Call.Sketch p → List (String × Held)
  | .http, s =>
    [("method", s.method.text), ("url", s.url.text), ("body_type", s.bodyType.text),
     ("body", s.body.text)]
  | .grpc, s =>
    [("url", s.url.text), ("service", s.service.text), ("method", s.method.text),
     ("message", s.message.text)]

/-- The columns in which results differ. -/
def Detail.Sketch.held : {p : Protocol} → Detail.Sketch p → List (String × Held)
  | .http, s => [("body", s.body.text)]
  | .grpc, s => [("service", s.service.text), ("method", s.method.text)]

/-- The columns that tell how a call ended. -/
def finalHeld (status elapsedMs : Given Int) : List (String × Held) :=
  [("status", status.whole), ("elapsed_ms", elapsedMs.whole)]

/-- The columns of a record in the order of its table, its identifier and its times apart. -/
def Sketch.held : {k : Kind} → Sketch k → List (String × Held)
  | .workspace, s => ("name", s.name.text) :: s.settings.held .workspace
  | .folder, s =>
    [("workspace_id", s.workspaceId.text), ("folder_id", s.folderId.text), ("name", s.name.text),
     ("sort_priority", s.sortPriority.priority)] ++ s.settings.held .folder
  | .request p, s =>
    [("workspace_id", s.workspaceId.text), ("folder_id", s.folderId.text),
     ("name", s.name.text)] ++
    Call.Sketch.held s.call ++ [("sort_priority", s.sortPriority.priority)] ++
    s.settings.held (.request p)
  | .exchange .http, s =>
    [("workspace_id", s.workspaceId.text), ("request_id", s.requestId.text)] ++
    finalHeld s.status s.elapsedMs ++ Detail.Sketch.held s.detail
  | .exchange .grpc, s =>
    [("workspace_id", s.workspaceId.text), ("request_id", s.requestId.text)] ++
    Detail.Sketch.held s.detail ++ finalHeld s.status s.elapsedMs

/-! ### Whole records -/

/-- The times of a record. -/
def timesHeld (createdAt updatedAt : Option Instant) : List (String × Held) :=
  [("created_at", .time createdAt), ("updated_at", .time updatedAt)]

/-- All columns of a draft. It has no times yet. -/
def Draft.held {k : Kind} (d : Draft k) : List (String × Held) :=
  ("id", d.id.text) :: d.data.held ++ timesHeld none none

/-- All columns of a stored record. -/
def Row.held {k : Kind} (row : Row k) : List (String × Held) :=
  ("id", .text (some row.id)) :: (Columns.sketch row.data).held ++
    timesHeld (some row.createdAt) (some row.updatedAt)

/-- Columns as an object. -/
def Held.document (columns : List (String × Held)) : Json :=
  .object (columns.map fun (name, held) => (.sound name, held.toJson))

/-- A draft by column name. -/
def Draft.document {k : Kind} (d : Draft k) : Json := Held.document d.held

/-- A stored record by column name. -/
def Row.document {k : Kind} (row : Row k) : Json := Held.document row.held

/-! ### Columns by name -/

/-- The type of the column of this name, if records of this kind have one. -/
def Kind.columnType? (k : Kind) (column : String) : Option ColumnType :=
  (Draft.held (⟨.null, Columns.blank k⟩ : Draft k)).lookup column |>.map Held.type

/-- The record holds what is sought in the column of this name. -/
def Row.agrees {k : Kind} (row : Row k) (column : String) (sought : Cell) : Bool :=
  (row.held.lookup column).any fun held => held.cell.agrees sought

/-- A record has the columns of its kind. -/
theorem Row.map_type_held {k : Kind} (row : Row k) :
    (row.held.map fun (name, held) => (name, held.type)) =
      (Draft.held (⟨.null, Columns.blank k⟩ : Draft k)).map fun (name, held) =>
        (name, held.type) := by
  rcases k with _ | _ | (_ | _) | (_ | _) <;> rfl

/-! ### Values that columns cannot take -/

/-- The column comes after the whole numbers of its table. -/
def Kind.isLate : Kind → String → Bool
  | .exchange .http, column => column == "body"
  | _, _ => false

/-- Why the tables cannot take a draft that is handed on with these garbled texts: the first
    value, column by column, that its column cannot take. -/
def Sketch.unfit? {k : Kind} (d : Sketch k) (garbled : List (String × Text)) : Option Unfit :=
  let first (late : Bool) : Option Unfit :=
    (garbled.find? fun field => k.isLate field.1 == late).map fun field => .garbled field.2
  first false <|> (if d.numbersFit then none else some .tooLarge) <|> first true

end RequestCatalog
