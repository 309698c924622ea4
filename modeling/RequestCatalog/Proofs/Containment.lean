import RequestCatalog.Proofs.Served
import RequestCatalog.Proofs.Walk

/-! # The tree of a catalogue that is served

  The tables watch over references one by one. What makes a tree of them is decided
  before a call writes: a record lies in a folder of its own workspace, a folder never
  moves to another workspace, and no folder comes to lie below itself.

  `Store.Contained` is the invariant, and each change that a call makes keeps it. A
  deletion takes along whatever lies below, so the ways up that remain are the ways
  up that were there before. A folder that is written has a way up that avoids the
  folder itself, since `wouldLoop` looked for one; everything below it then goes the
  old way as far as the folder, and the new way from there.
-/

namespace RequestCatalog

namespace Store

variable {s t : Store} {k : Kind}

/-! ### The invariant -/

/-- There is a place with this parent in this workspace: the workspace exists, and so does the
    folder, if one is named, in that workspace. -/
def HasPlace (s : Store) (workspaceId : String) (folderId : Option String) : Prop :=
  s.holds ⟨.workspace, workspaceId⟩ = true ∧
    ∀ id, folderId = some id →
      ∃ f, s.get? .folder id = some f ∧ f.data.workspaceId = workspaceId

/-- Folders and requests have places in their workspaces, and the way up from every folder
    comes to one that lies in no other. -/
structure Contained (s : Store) : Prop where
  folder : ∀ f ∈ s.rows .folder, s.HasPlace f.data.workspaceId f.data.folderId
  request : ∀ p, ∀ r ∈ s.rows (.request p), s.HasPlace r.data.workspaceId r.data.folderId
  grounded : ∀ f ∈ s.rows .folder, ∃ above, s.WayUp f.data.folderId above

theorem contained_empty : empty.Contained where
  folder _ h := absurd h not_mem_rows_empty
  request _ _ h := absurd h not_mem_rows_empty
  grounded _ h := absurd h not_mem_rows_empty

/-- Every place has a way up. -/
theorem Contained.exists_wayUp (hs : s.Contained) {workspaceId : String}
    {folderId : Option String} (h : s.HasPlace workspaceId folderId) :
    ∃ above, s.WayUp folderId above := by
  cases folderId with
  | none => exact ⟨[], .root⟩
  | some id =>
    obtain ⟨f, hget, -⟩ := h.2 id rfl
    obtain ⟨above, hway⟩ := hs.grounded f (mem_of_get? hget)
    exact ⟨f :: above, .step hget hway⟩

/-! ### Deleting -/

/-- The workspace and the folder of a folder that stays both stay. -/
theorem folder_refs_stay {key : Key} {f : Row .folder} (hf : f ∈ (s.delete key).rows .folder) :
    (⟨.workspace, f.data.workspaceId⟩ : Key) ∉ s.dependents key ∧
      ∀ id, f.data.folderId = some id → (⟨.folder, id⟩ : Key) ∉ s.dependents key := by
  refine ⟨ref_not_mem_dependents hf (by simp [Row.refs, Columns.refs]), fun id hid => ?_⟩
  exact ref_not_mem_dependents hf (by simp [Row.refs, Columns.refs, hid])

/-- The workspace and the folder of a request that stays both stay. -/
theorem request_refs_stay {key : Key} {p : Protocol} {r : Row (.request p)}
    (hr : r ∈ (s.delete key).rows (.request p)) :
    (⟨.workspace, r.data.workspaceId⟩ : Key) ∉ s.dependents key ∧
      ∀ id, r.data.folderId = some id → (⟨.folder, id⟩ : Key) ∉ s.dependents key := by
  refine ⟨ref_not_mem_dependents hr (by simp [Row.refs, Columns.refs]), fun id hid => ?_⟩
  exact ref_not_mem_dependents hr (by simp [Row.refs, Columns.refs, hid])

/-- A place stays if the workspace and the folder stay. -/
theorem HasPlace.delete {key : Key} {workspaceId : String} {folderId : Option String}
    (h : s.HasPlace workspaceId folderId)
    (hworkspace : (⟨.workspace, workspaceId⟩ : Key) ∉ s.dependents key)
    (hfolder : ∀ id, folderId = some id → (⟨.folder, id⟩ : Key) ∉ s.dependents key) :
    (s.delete key).HasPlace workspaceId folderId := by
  refine ⟨holds_delete.mpr ⟨h.1, hworkspace⟩, fun id hid => ?_⟩
  obtain ⟨f, hget, hsame⟩ := h.2 id hid
  exact ⟨f, by rw [get?_delete (hfolder id hid), hget], hsame⟩

/-- The way up from a folder that stays stays. -/
theorem WayUp.delete {key : Key} {parent : Option String} {above : List (Row .folder)}
    (h : s.WayUp parent above)
    (hstays : ∀ id, parent = some id → (⟨.folder, id⟩ : Key) ∉ s.dependents key) :
    (s.delete key).WayUp parent above := by
  induction h with
  | root => exact .root
  | @step id f above hget _ ih =>
    have hid : (⟨.folder, id⟩ : Key) ∉ s.dependents key := hstays id rfl
    -- the folder itself stays
    have hf : f ∈ (s.delete key).rows .folder := by
      refine mem_rows_delete.mpr ⟨mem_of_get? hget, ?_⟩
      unfold Row.key
      rwa [id_of_get? hget]
    -- a folder that stays lies in a folder that stays, so the rest of the way stays as well
    exact .step (by rw [get?_delete hid, hget]) (ih (folder_refs_stay hf).2)

theorem Contained.delete (hs : s.Contained) (key : Key) : (s.delete key).Contained where
  folder f hf := by
    obtain ⟨hworkspace, hfolder⟩ := folder_refs_stay hf
    exact (hs.folder f (mem_rows_delete.mp hf).1).delete hworkspace hfolder
  request p r hr := by
    obtain ⟨hworkspace, hfolder⟩ := request_refs_stay hr
    exact (hs.request p r (mem_rows_delete.mp hr).1).delete hworkspace hfolder
  grounded f hf := by
    obtain ⟨above, hway⟩ := hs.grounded f (mem_rows_delete.mp hf).1
    exact ⟨above, hway.delete (folder_refs_stay hf).2⟩

/-! ### Writing records that are no folders -/

/-- A place stays as long as workspaces stay and folders stay in their workspaces. -/
theorem HasPlace.mono {workspaceId : String} {folderId : Option String}
    (h : s.HasPlace workspaceId folderId)
    (hworkspace : ∀ key, s.holds key = true → t.holds key = true)
    (hfolder : ∀ id f, s.get? .folder id = some f →
      ∃ g, t.get? .folder id = some g ∧ g.data.workspaceId = f.data.workspaceId) :
    t.HasPlace workspaceId folderId := by
  refine ⟨hworkspace _ h.1, fun id hid => ?_⟩
  obtain ⟨f, hget, hsame⟩ := h.2 id hid
  obtain ⟨g, hg, hkept⟩ := hfolder id f hget
  exact ⟨g, hg, hkept.trans hsame⟩

/-- A way up stays as long as the folders on it are found. -/
theorem WayUp.mono {parent : Option String} {above : List (Row .folder)} (h : s.WayUp parent above)
    (hfolder : ∀ id f, s.get? .folder id = some f → t.get? .folder id = some f) :
    t.WayUp parent above := by
  induction h with
  | root => exact .root
  | step hget _ ih => exact .step (hfolder _ _ hget) ih

section put

variable {row : Row k}

theorem get?_folder_put (hkind : k ≠ .folder) (id : String) :
    (s.put row).get? .folder id = s.get? .folder id :=
  get?_put_ne fun h => hkind (congrArg Key.kind h).symm

theorem HasPlace.put (hkind : k ≠ .folder) {workspaceId : String} {folderId : Option String}
    (h : s.HasPlace workspaceId folderId) : (s.put row).HasPlace workspaceId folderId :=
  h.mono (fun _ hheld => holds_put.mpr (.inr hheld))
    fun id f hget => ⟨f, by rw [get?_folder_put hkind, hget], rfl⟩

/-- A record that is no folder may be written if it has a place, where it needs one. -/
theorem Contained.put (hs : s.Contained) (hkind : k ≠ .folder)
    (hplace : ∀ p (r : Row (.request p)), (⟨.request p, r⟩ : (k : Kind) × Row k) = ⟨k, row⟩ →
      s.HasPlace r.data.workspaceId r.data.folderId) :
    (s.put row).Contained where
  folder f hf := by
    rw [rows_put_ne hkind.symm] at hf
    exact (hs.folder f hf).put hkind
  request p r hr := by
    rcases mem_rows_put_cases hr with hmem | heq
    · exact (hs.request p r hmem).put hkind
    · exact (hplace p r heq).put hkind
  grounded f hf := by
    rw [rows_put_ne hkind.symm] at hf
    obtain ⟨above, hway⟩ := hs.grounded f hf
    exact ⟨above, hway.mono fun id g hget => by rw [get?_folder_put hkind, hget]⟩

end put

/-! ### Writing folders -/

section putFolder

variable {f : Row .folder}

theorem get?_folder_put_ne {id : String} (h : id ≠ f.id) :
    (s.put f).get? .folder id = s.get? .folder id :=
  get?_put_ne fun hkey => h (congrArg Key.id hkey)

/-- A place stays when a folder is written that stays in its workspace. -/
theorem HasPlace.put_folder
    (hkept : ∀ old, s.get? .folder f.id = some old → old.data.workspaceId = f.data.workspaceId)
    {workspaceId : String} {folderId : Option String} (h : s.HasPlace workspaceId folderId) :
    (s.put f).HasPlace workspaceId folderId := by
  refine h.mono (fun _ hheld => holds_put.mpr (.inr hheld)) fun id g hget => ?_
  by_cases hid : id = f.id
  · subst hid
    exact ⟨f, get?_put_self, (hkept g hget).symm⟩
  · exact ⟨g, by rw [get?_folder_put_ne hid, hget], rfl⟩

/-- With a new way up for the folder that is written, everything has one. -/
theorem WayUp.put_folder (hway : ∃ above, (s.put f).WayUp f.data.folderId above)
    {parent : Option String} {above : List (Row .folder)} (h : s.WayUp parent above) :
    ∃ above, (s.put f).WayUp parent above := by
  induction h with
  | root => exact ⟨[], .root⟩
  | @step id g _ hget _ ih =>
    by_cases hid : id = f.id
    · -- from here on the way is the new one
      obtain ⟨above, hway⟩ := hway
      rw [hid]
      exact ⟨f :: above, .step get?_put_self hway⟩
    · obtain ⟨above, hrest⟩ := ih
      exact ⟨g :: above, .step (by rw [get?_folder_put_ne hid, hget]) hrest⟩

/-- A folder may be written if it has a place, stays in its workspace, and has a way up once it
    is written. -/
theorem Contained.put_folder (hs : s.Contained)
    (hkept : ∀ old, s.get? .folder f.id = some old → old.data.workspaceId = f.data.workspaceId)
    (hplace : s.HasPlace f.data.workspaceId f.data.folderId)
    (hway : ∃ above, (s.put f).WayUp f.data.folderId above) : (s.put f).Contained where
  folder g hg := by
    rcases mem_rows_put.mp hg with rfl | ⟨hmem, -⟩
    · exact hplace.put_folder hkept
    · exact (hs.folder g hmem).put_folder hkept
  request p r hr := by
    rw [rows_put_ne (by simp)] at hr
    exact (hs.request p r hr).put_folder hkept
  grounded g hg := by
    rcases mem_rows_put.mp hg with rfl | ⟨hmem, -⟩
    · exact hway
    · obtain ⟨above, hold⟩ := hs.grounded g hmem
      exact hold.put_folder hway

end putFolder

end Store

/-! ### What is decided before a call writes -/

namespace Api

variable {s : Store}

theorem get?_of_fetch {k : Kind} {id : String} {row : Row k} (h : s.fetch k (some id) = .ok row) :
    s.get? k id = some row := by
  rw [Store.fetch_some] at h
  cases hget : s.get? k id with
  | none => rw [hget] at h; cases h
  | some found =>
    rw [hget] at h
    cases h
    rfl

/-- What is decided about the parent of a folder. -/
def admitParent (form : Form .folder) (s : Store) : Except Fault Unit :=
  match form.data.folderId with
  | none => pure ()
  | some parentId => do
    let parent ← s.fetch .folder (some parentId)
    if parent.data.workspaceId != form.data.workspaceId then
      throw (.workspaceMismatch parent.id form.data.workspaceId)
    if !form.id.isEmpty && s.wouldLoop form.id (some parentId) then
      throw (.folderCycle form.id)

/-- An admitted folder lies in an existing workspace, stays there, and has an admitted parent. -/
theorem admitFolder_ok {form : Form .folder} (h : admitFolder form s = .ok ()) :
    s.holds ⟨.workspace, form.data.workspaceId⟩ = true ∧
      (∀ old, s.get? .folder form.id = some old → form.id ≠ "" →
        old.data.workspaceId = form.data.workspaceId) ∧
      admitParent form s = .ok () := by
  unfold admitFolder at h
  obtain ⟨-, -, h⟩ := bind_eq_ok_iff.mp h
  obtain ⟨workspace, hworkspace, h⟩ := bind_eq_ok_iff.mp h
  obtain ⟨-, -, h⟩ := bind_eq_ok_iff.mp h
  refine ⟨Store.holds_of_get? (get?_of_fetch hworkspace), ?_⟩
  cases hget : s.get? .folder form.id with
  | none =>
    rw [hget] at h
    obtain ⟨-, -, h⟩ := bind_eq_ok_iff.mp h
    exact ⟨fun old hold => absurd hold (by simp), h⟩
  | some stored =>
    simp only [hget] at h
    split at h
    · cases h
    · next hsame =>
      obtain ⟨-, -, h⟩ := bind_eq_ok_iff.mp h
      refine ⟨fun old hold hid => ?_, h⟩
      obtain rfl := Option.some.inj hold
      simpa [hid] using hsame

/-- An admitted parent exists in the workspace, and does not lie below the folder. -/
theorem admitParent_ok {form : Form .folder} (h : admitParent form s = .ok ()) {parentId : String}
    (hparent : form.data.folderId = some parentId) :
    (∃ parent, s.get? .folder parentId = some parent ∧
        parent.data.workspaceId = form.data.workspaceId) ∧
      (form.id ≠ "" → s.wouldLoop form.id (some parentId) = false) := by
  unfold admitParent at h
  simp only [hparent] at h
  obtain ⟨parent, hfetch, h⟩ := bind_eq_ok_iff.mp h
  split at h
  · cases h
  · next hsame =>
    split at h
    · cases h
    · next hloop =>
      refine ⟨⟨parent, get?_of_fetch hfetch, by simpa using hsame⟩, fun hid => ?_⟩
      simpa [hid] using hloop

theorem hasPlace_of_admitFolder {form : Form .folder} (h : admitFolder form s = .ok ()) :
    s.HasPlace form.data.workspaceId form.data.folderId := by
  obtain ⟨hworkspace, -, hparent⟩ := admitFolder_ok h
  exact ⟨hworkspace, fun id hid => (admitParent_ok hparent hid).1⟩

/-- A request that is admitted has a place. -/
theorem hasPlace_of_admitRequest {p : Protocol} {form : Form (.request p)}
    (h : admitRequest form s = .ok ()) :
    s.HasPlace form.data.workspaceId form.data.folderId := by
  unfold admitRequest at h
  obtain ⟨-, -, h⟩ := bind_eq_ok_iff.mp h
  obtain ⟨workspace, hworkspace, h⟩ := bind_eq_ok_iff.mp h
  obtain ⟨-, -, h⟩ := bind_eq_ok_iff.mp h
  refine ⟨Store.holds_of_get? (get?_of_fetch hworkspace), fun id hid => ?_⟩
  rw [hid] at h
  obtain ⟨folder, hfolder, h⟩ := bind_eq_ok_iff.mp h
  refine ⟨folder, get?_of_fetch hfolder, ?_⟩
  -- the last thing that is looked at is the workspace of the folder
  by_contra hother
  simp [hother, throw, throwThe, MonadExceptOf.throw] at h

end Api

/-! ### Every change keeps the tree -/

namespace Store

variable {s t : Store}

/-- A folder that was sent and admitted may be written. -/
theorem Contained.write_folder (hs : s.Contained) {form : Api.Form .folder} {id : String}
    {now : Instant} {f : Row .folder} (hadmitted : Api.admitFolder form s = .ok ())
    (hid : form.id = id ∧ id ≠ "" ∨ form.id = "" ∧ s.holds ⟨.folder, id⟩ = false)
    (hcandidate : s.candidate id form.draft.data now = .ok f) : (s.put f).Contained := by
  obtain ⟨-, hkept, hparent⟩ := Api.admitFolder_ok hadmitted
  obtain ⟨hworkspace, hfolder⟩ := place_of_candidate_folder hcandidate rfl rfl
  obtain rfl : f.id = id := (candidate_cases hcandidate).1
  have hplace : s.HasPlace f.data.workspaceId f.data.folderId := by
    rw [hworkspace, hfolder]
    exact Api.hasPlace_of_admitFolder hadmitted
  refine hs.put_folder (fun old hold => ?_) hplace ?_
  · rcases hid with ⟨hnamed, hne⟩ | ⟨-, hnew⟩
    · rw [hworkspace]
      exact hkept old (hnamed ▸ hold) (hnamed ▸ hne)
    · rw [get?_eq_none_iff.mpr hnew] at hold
      cases hold
  -- the way up of the new parent, with the folder as it was before
  · obtain ⟨above, hway⟩ := hs.exists_wayUp hplace
    rcases hid with ⟨hnamed, hne⟩ | ⟨-, hnew⟩
    · cases hlies : f.data.folderId with
      | none => exact ⟨[], .root⟩
      | some parentId =>
        have hloop := (Api.admitParent_ok hparent (hfolder ▸ hlies)).2 (hnamed ▸ hne)
        rw [hnamed] at hloop
        rw [hlies] at hway
        exact wayUp_of_not_wouldLoop hloop hway fun _ => get?_folder_put_ne
    · -- a new folder stands on no way up
      refine ⟨above, hway.mono fun other g hget => ?_⟩
      rw [get?_folder_put_ne, hget]
      rintro rfl
      rw [get?_eq_none_iff.mpr hnew] at hget
      cases hget

theorem Contained.commit (hs : s.Contained) (h : s.Commit t) : t.Contained := by
  cases h with
  | delete key => exact hs.delete key
  -- a copy has the place of its source
  | @copy p r row id place now _ hr hnew hwrite =>
    obtain ⟨hcandidate, -, rfl⟩ := write_eq_ok_iff.mp hwrite
    obtain ⟨hworkspace, hfolder⟩ := place_of_candidate_request hcandidate
      (Op.copyAt_workspaceId r place) (Op.copyAt_folderId r place)
    refine hs.put (by simp) fun q x hx => ?_
    cases hx
    rw [hworkspace, hfolder]
    exact hs.request p r hr
  | @write k form id now row _ hsent hadmitted hid hwrite =>
    obtain ⟨hcandidate, -, rfl⟩ := write_eq_ok_iff.mp hwrite
    cases k with
    | workspace => exact hs.put (by simp) fun q x hx => by cases hx
    | folder => exact hs.write_folder hadmitted hid hcandidate
    | request p =>
      obtain ⟨hworkspace, hfolder⟩ := place_of_candidate_request hcandidate rfl rfl
      refine hs.put (by simp) fun q x hx => ?_
      cases hx
      rw [hworkspace, hfolder]
      exact Api.hasPlace_of_admitRequest hadmitted
    | exchange p => exact (Api.Form.not_sent hsent).elim

end Store

namespace Catalog

/-- Wherever calls get, folders and requests stand in a tree. -/
theorem Served.contained {c : Catalog} (h : c.Served) : c.store.Contained :=
  h.store_induction Store.contained_empty fun _ _ _ hs => hs.commit

/-- Wherever calls get, every folder and every request belongs to a stored workspace and lies,
    if it lies in a folder, in a stored folder of that workspace; and from every folder the way
    up comes to a folder that lies in no other, so no folder lies below itself. -/
theorem Served.stands_in_tree {c : Catalog} (h : c.Served) :
    (∀ f ∈ c.store.rows .folder,
      (∃ w ∈ c.store.rows .workspace, w.id = f.data.workspaceId) ∧
        ∀ id, f.data.folderId = some id →
          ∃ g ∈ c.store.rows .folder, g.id = id ∧ g.data.workspaceId = f.data.workspaceId) ∧
    (∀ p, ∀ r ∈ c.store.rows (.request p),
      (∃ w ∈ c.store.rows .workspace, w.id = r.data.workspaceId) ∧
        ∀ id, r.data.folderId = some id →
          ∃ g ∈ c.store.rows .folder, g.id = id ∧ g.data.workspaceId = r.data.workspaceId) ∧
    (∀ f ∈ c.store.rows .folder,
      (∃ above, c.store.WayUp f.data.folderId above) ∧
        ¬ Relation.TransGen c.store.LiesIn f.id f.id) := by
  have hplace : ∀ {workspaceId folderId}, c.store.HasPlace workspaceId folderId →
      (∃ w ∈ c.store.rows .workspace, w.id = workspaceId) ∧
        ∀ id, folderId = some id →
          ∃ g ∈ c.store.rows .folder, g.id = id ∧ g.data.workspaceId = workspaceId := by
    intro workspaceId folderId hplace
    refine ⟨Store.holds_iff.mp hplace.1, fun id hid => ?_⟩
    obtain ⟨g, hget, hsame⟩ := hplace.2 id hid
    exact ⟨g, Store.mem_of_get? hget, Store.id_of_get? hget, hsame⟩
  refine ⟨fun f hf => hplace (h.contained.folder f hf),
    fun p r hr => hplace (h.contained.request p r hr), fun f hf => ?_⟩
  obtain ⟨above, hway⟩ := h.contained.grounded f hf
  refine ⟨⟨above, hway⟩, fun hcycle => ?_⟩
  have hget := h.reached.intact.distinct.get?_of_mem hf
  exact (Store.WayUp.step hget hway).not_loops ⟨f.id, .refl, hcycle⟩

/-- The three folders of the run lie inside each other, and both requests at the bottom. -/
theorem toured_stands_in_tree :
    (toured.store.rows .folder).map (fun f => (f.id, f.data.folderId)) =
        [("outer", some "top"), ("inner", some "outer"), ("top", none)] ∧
      (toured.store.rows (.request .http)).map (fun r => r.data.folderId) =
        [some "inner", some "inner"] ∧
      ∀ f ∈ toured.store.rows .folder, ∃ above, toured.store.WayUp f.data.folderId above :=
  ⟨by decide +kernel, by decide +kernel,
    fun f hf => (Served.stands_in_tree toured_served).2.2 f hf |>.1⟩

end Catalog

end RequestCatalog
