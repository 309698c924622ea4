import RequestCatalog.Proofs.Finding
import RequestCatalog.Proofs.FolderWrites

/-! # Folders nested to any depth

  A call can put a new folder into any stored one (`Catalog.Served.take_nest`), so calls get to
  folders that lie inside each other to any depth. `Catalog.nested` is where such calls get, and
  `Catalog.nesting` tells what is known of it: which folder is the outermost, and how far below it
  the innermost one lies. Beyond some depth neither the outermost folder nor its workspace can be
  deleted (`Catalog.nested_folder_tooDeep`, `Catalog.nested_workspace_tooDeep`).
-/

namespace RequestCatalog

open Relation

/-! ### One folder more -/

/-- The call that sends a folder to be written inside another one. -/
def TimedStep.nest (workspaceId parentId id : String) : TimedStep :=
  .post "/api/folders" [("id", .text id), ("workspace_id", .text workspaceId),
    ("name", .text "n"), ("folder_id", .text parentId)]

/-- The folder that the call sends. -/
def Api.Form.inside (workspaceId parentId id : String) : Api.Form .folder where
  id := id
  data := ⟨workspaceId, some parentId, "n", 0.0,
    ⟨none, .written (.object []), .written (.list [])⟩⟩

theorem Api.Form.inside_given (workspaceId parentId id : String) :
    ∃ incoming, TimedStep.nest workspaceId parentId id = ⟨none, .call incoming⟩ ∧
      incoming.Gives (.writeFolder (inside workspaceId parentId id) .window) := by
  refine ⟨_, rfl, .collection .folder, ?_, rfl⟩
  show Resource.ofPath? "/api/folders" = _
  decide +kernel

namespace Store

variable {s : Store}

/-- In a tree no way up comes to a folder that is not stored. -/
theorem Contained.not_wouldLoop (hs : s.Contained) (hdistinct : s.Distinct) {parent : Row .folder}
    (hparent : parent ∈ s.rows .folder) {id : String} (hnew : s.holds ⟨.folder, id⟩ = false) :
    s.wouldLoop id (some parent.id) = false := by
  rw [← Bool.not_eq_true]
  intro hloop
  obtain ⟨last, hclimb⟩ := wouldLoop_iff_climb.mp hloop
  obtain ⟨above, hway⟩ := hs.grounded parent hparent
  obtain ⟨start, last, hstart, hreach, -, hmet⟩ :=
    climb_error_of_wayUp (.step (hdistinct.get?_of_mem hparent) hway) hclimb
  obtain rfl := Option.some.inj hstart
  obtain rfl : last = id := by simpa using hmet
  have hheld : s.holds ⟨.folder, last⟩ = true := by
    rcases hreach.cases_tail with heq | ⟨below, -, f, hget, hlies⟩
    · rw [heq]
      exact holds_of_mem hparent
    · have hplace := hs.folder f (mem_of_get? hget)
      obtain ⟨found, hfound, -⟩ := hplace.2 last hlies
      exact holds_of_get? hfound
  rw [hnew] at hheld
  cases hheld

/-- A new folder is admitted inside any stored one: its workspace and its parent are there, and no
    walk comes to a folder that is not stored. -/
theorem Contained.admit_inside (hs : s.Contained) (hdistinct : s.Distinct) {parent : Row .folder}
    (hparent : parent ∈ s.rows .folder) {id : String} (hnew : s.holds ⟨.folder, id⟩ = false) :
    Api.admitFolder (.inside parent.data.workspaceId parent.id id) s = .ok () := by
  let form := Api.Form.inside parent.data.workspaceId parent.id id
  have hstays : ∀ old, s.get? .folder form.id = some old → form.id ≠ "" →
      old.data.workspaceId = form.data.workspaceId := by
    intro old hget
    cases hget.symm.trans (get?_eq_none_iff.mpr hnew)
  rw [Api.admitFolder_of_stays rfl (hs.folder parent hparent).1 rfl hstays rfl]
  exact Api.admitParent_of_unlooped rfl (hdistinct.get?_of_mem hparent) rfl
    fun _ => hs.not_wouldLoop hdistinct hparent hnew

end Store

namespace Catalog

variable {c : Catalog}

/-- The call writes the folder, and calls get there. -/
theorem Served.take_nest (hc : c.Served) {parent : Row .folder}
    (hparent : parent ∈ c.store.rows .folder) {id : String} (hid : id ≠ "")
    (hnew : c.store.holds ⟨.folder, id⟩ = false) :
    let t := TimedStep.nest parent.data.workspaceId parent.id id
    (t.take c).2.Served ∧ ∃ f : Row .folder, f.id = id ∧
      f.data.workspaceId = parent.data.workspaceId ∧ f.data.folderId = some parent.id ∧
      (t.take c).2.store = c.store.put f := by
  intro t
  obtain ⟨incoming, ht, hgives⟩ := Api.Form.inside_given parent.data.workspaceId parent.id id
  let form := Api.Form.inside parent.data.workspaceId parent.id id
  have hgarbled : form.garbled = [] := rfl
  have hsent : form.Sent := hgives.sound _ form rfl
  have hadmitted : Api.admitFolder form c.store = .ok () :=
    Store.Contained.admit_inside hc.contained hc.reached.intact.distinct hparent hnew
  let b := t.before c
  have hnamed : form.draft.named? = some id := by
    rw [form.named?_draft]
    simp [form, Api.Form.inside, hid]
  have hidFor : b.idFor form.draft = id := by rw [idFor, hnamed, Option.getD_some]
  have hissued : b.issuedFor form.draft = c.issued := by rw [issuedFor, hnamed]; rfl
  obtain ⟨f, s, hwrite⟩ := Store.exists_write hsent hadmitted (b.idFor form.draft) b.now
  obtain ⟨hcandidate, -, rfl⟩ := Store.write_eq_ok_iff.mp hwrite
  obtain ⟨c', hrun, hstore, hmade⟩ := Api.Command.run_writeFolder_of_write (c := b) .window
    hadmitted hgarbled (Api.Form.draft_fits_of_sent hsent) hwrite
  have htake : t.take c =
      (⟨.ok (.reply (.showing 200 (Api.shownRow? f))), c'.journal⟩, c') := by
    show TimedStep.take (.nest _ _ _) c = _
    rw [ht]
    exact TimedStep.take_call_of_ok hgives hrun
  have hplaced : f.data.workspaceId = parent.data.workspaceId ∧
      f.data.folderId = some parent.id := Store.place_of_candidate_folder hcandidate rfl rfl
  have hfid : f.id = id := (Store.candidate_cases hcandidate).1.trans hidFor
  refine ⟨?_, f, hfid, hplaced.1, hplaced.2, by rw [htake]; exact hstore⟩
  have hfresh : c.MakesFresh (t.take c).2 := by
    rw [htake]
    intro key hkey
    rw [hmade, hissued, List.drop_length] at hkey
    cases hkey
  have hsame : t = ⟨none, .call incoming⟩ := ht
  rw [hsame] at hfresh ⊢
  exact hc.call none incoming hfresh

/-- A call that is to delete what is too deep is answered so, and leaves all as it was. -/
theorem Served.take_deletesTooDeep (hc : c.Served) {incoming : Api.Incoming}
    {command : Api.Command} (hgives : incoming.Gives command)
    (hdeletes : command.DeletesTooDeep c.store) (at? : Option Int) :
    ∃ left, TimedStep.take ⟨at?, .call incoming⟩ c =
        (⟨.ok (.reply .notStored), left.journal⟩, left) ∧
      left.store = c.store ∧ left.issued = c.issued := by
  let b := TimedStep.before ⟨at?, .call incoming⟩ c
  have hfind : command.find b = .error (.violation .tooManyLevels) b :=
    Api.Command.DeletesTooDeep.find_eq hc.reached.intact.distinct hdeletes
  have hrun : command.run b = .error (.violation .tooManyLevels) b := by
    rw [command.run_eq]
    exact Op.run_map_of_error hfind _
  obtain ⟨left, htake, hstore, hissued⟩ := TimedStep.take_call_of_violation hgives hrun
  exact ⟨left, htake, hstore, hissued⟩

/-! ### One folder after another -/

/-- The name of the folder so many folders down. -/
def level (n : Nat) : String := String.ofList (List.replicate (n + 1) 'a')

theorem level_injective : Function.Injective level := by
  intro m n h
  have hlength := congrArg List.length (String.ofList_injective h)
  simpa using hlength

theorem level_ne_empty (n : Nat) : level n ≠ "" := by
  intro h
  have hlist := congrArg String.toList h
  simp [level, List.replicate_succ] at hlist

/-- A workspace with a folder, and so many folders below it, each inside the one before. -/
def nested : Nat → Catalog
  | 0 => (runFrom {} [.post "/api/workspaces" [("id", .text "w"), ("name", .text "n")],
      .post "/api/folders" [("id", .text (level 0)), ("workspace_id", .text "w"),
        ("name", .text "n")]]).2
  | n + 1 => ((TimedStep.nest "w" (level n) (level (n + 1))).take (nested n)).2

/-- So many folders lie below the first folder of the workspace, one inside the other. -/
structure Nesting (n : Nat) (c : Catalog) : Prop where
  served : c.Served
  outermost : ∃ f after, c.store.foldersOf "w" = f :: after ∧ f.id = level 0
  innermost : ∃ f ∈ c.store.rows .folder, f.id = level n ∧ f.data.workspaceId = "w"
  lies : Cascade.Lies c.store.entries ⟨.folder, level 0⟩ n ⟨.folder, level n⟩
  fresh : ∀ m, n < m → c.store.holds ⟨.folder, level m⟩ = false

theorem nesting_zero : Nesting 0 (nested 0) where
  served := .runFrom (.start rfl) (by decide +kernel)
  outermost := by
    have hids : ((nested 0).store.foldersOf "w").map Row.id = [level 0] := by decide +kernel
    obtain ⟨f, after, heq, hid, -⟩ := List.map_eq_cons_iff.mp hids
    exact ⟨f, after, heq, hid⟩
  innermost := by decide +kernel
  lies := .self (by decide +kernel)
  fresh m hm := by
    have hids : (nested 0).store.folders.map Row.id = [level 0] := by decide +kernel
    rw [← Bool.not_eq_true, Store.holds_iff]
    rintro ⟨f, hf, hid⟩
    have hmem : level m ∈ (nested 0).store.folders.map Row.id := List.mem_map.mpr ⟨f, hf, hid⟩
    rw [hids, List.mem_singleton] at hmem
    exact absurd (level_injective hmem) (by omega)

theorem Nesting.succ {n : Nat} (h : Nesting n c) :
    Nesting (n + 1) ((TimedStep.nest "w" (level n) (level (n + 1))).take c).2 := by
  obtain ⟨parent, hparent, hid, hworkspace⟩ := h.innermost
  have hnew := h.fresh (n + 1) (by omega)
  obtain ⟨hserved, f, hfid, hfw, hfolder, hstore⟩ :=
    h.served.take_nest hparent (level_ne_empty (n + 1)) hnew
  rw [hworkspace, hid] at hserved hstore
  rw [hid] at hfolder
  rw [hworkspace] at hfw
  have hkey : f.key = ⟨.folder, level (n + 1)⟩ := congrArg (Key.mk .folder) hfid
  -- the folder is written behind all that is stored
  have hrows : (c.store.put f).rows .folder = c.store.rows .folder ++ [f] :=
    Store.rows_put_of_not_holds (by rw [hkey]; exact hnew)
  have hentries : ∀ entry ∈ c.store.entries, entry ∈ (c.store.put f).entries := by
    intro entry hentry
    obtain ⟨k, row, hrow, rfl⟩ := Store.mem_entries_iff.mp hentry
    refine Store.mem_entries ?_
    by_cases hk : k = .folder
    · subst hk
      rw [hrows]
      exact List.mem_append_left _ hrow
    · rwa [Store.rows_put_ne hk]
  refine ⟨hserved, ?_, ?_, ?_, ?_⟩
  · obtain ⟨first, after, heq, hfirst⟩ := h.outermost
    refine ⟨first, after ++ [f], ?_, hfirst⟩
    have hfolders : (c.store.put f).folders = c.store.folders ++ [f] := hrows
    rw [hstore, Store.foldersOf, hfolders, List.filter_append]
    show c.store.foldersOf "w" ++ _ = _
    rw [heq]
    simp [hfw]
  · rw [hstore]
    exact ⟨f, Store.mem_rows_put.mpr (.inl rfl), hfid, hfw⟩
  · rw [hstore, ← hkey]
    have hmem : (f.key, f.refs) ∈ (c.store.put f).entries :=
      Store.mem_entries (k := .folder) (Store.mem_rows_put.mpr (.inl rfl))
    have hother : f.key ≠ ⟨.folder, level 0⟩ := by
      rw [hkey]
      intro heq
      exact absurd (level_injective (congrArg Key.id heq)) (by omega)
    exact .refers hmem hother (by simp [Row.refs, Columns.refs, hfolder]) (h.lies.mono hentries)
  · intro m hm
    rw [hstore, ← Bool.not_eq_true, Store.holds_put, hkey, not_or, Bool.not_eq_true]
    refine ⟨fun heq => ?_, h.fresh m (by omega)⟩
    exact absurd (level_injective (congrArg Key.id heq)) (by omega)

theorem nesting (n : Nat) : Nesting n (nested n) := by
  induction n with
  | zero => exact nesting_zero
  | succ n ih => exact ih.succ

variable {n : Nat}

theorem Nesting.exists_outermost (h : Nesting n c) :
    ∃ f ∈ c.store.rows .folder, f.id = level 0 := by
  obtain ⟨f, after, hfirst, hid⟩ := h.outermost
  have hmem : f ∈ c.store.foldersOf "w" := by
    rw [hfirst]
    exact List.mem_cons_self
  exact ⟨f, List.mem_of_mem_filter hmem, hid⟩

theorem Nesting.holds_workspace (h : Nesting n c) : c.store.holds ⟨.workspace, "w"⟩ = true := by
  obtain ⟨f, hf, -, hworkspace⟩ := h.innermost
  exact hworkspace ▸ (h.served.contained.folder f hf).1

/-- Folders that are nested too deep keep the outermost one from being deleted. -/
theorem nested_folder_tooDeep (h : Cascade.greatestLevel ≤ n) :
    (nested n).store.TooDeep ⟨.folder, level 0⟩ :=
  ⟨n, _, (nesting n).lies, h, .inl rfl⟩

/-- They keep the workspace from being deleted as well, and one less is enough for that. -/
theorem nested_workspace_tooDeep (h : Cascade.greatestLevel ≤ n + 1) :
    (nested n).store.TooDeep ⟨.workspace, "w"⟩ := by
  obtain ⟨f, after, heq, hid⟩ := (nesting n).outermost
  have hkey : f.key = ⟨.folder, level 0⟩ := congrArg (Key.mk .folder) hid
  exact ⟨[], f, after, heq, n, _, hkey ▸ (nesting n).lies, h, .inl rfl, by simp⟩

end Catalog

end RequestCatalog
