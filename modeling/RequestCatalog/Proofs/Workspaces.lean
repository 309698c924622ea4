import RequestCatalog.Proofs.Ancestry
import RequestCatalog.Proofs.Gathering

/-! # What a store holds of one workspace

  No table says that folders and requests stay in their workspaces, and deletions follow
  references, whatever the workspace. Yet in a coherent store a record belongs to the same
  workspace as all that it refers to (`Coherent.workspaceOf?_ref`), so a deletion takes
  records of one workspace only. A settled store, of which nothing came back from
  requests, is coherent.

  `AgreesOn` compares what two stores hold of one workspace. Whatever is looked up, listed
  or inherited inside the workspace comes from there, so it is the same in both stores.
-/

namespace RequestCatalog

open Relation

namespace Store

variable {s t : Store}

/-! ### The workspace of a record -/

/-- The workspace of the record under this key, if there is one. -/
def workspaceOf? (s : Store) (key : Key) : Option String :=
  (s.get? key.kind key.id).map Row.workspaceId

/-- Whatever came back from a request belongs to the workspace of the request. -/
def Together (s : Store) : Prop :=
  ∀ p, ∀ e ∈ s.rows (.exchange p),
    s.workspaceOf? ⟨.request p, e.data.requestId⟩ = some e.data.workspaceId

/-- What is stored stands in a tree, each record under its own identifier, and what came back from
    a request belongs to the workspace of the request. -/
structure Coherent (s : Store) : Prop where
  contained : s.Contained
  distinct : s.Distinct
  together : s.Together

theorem workspaceOf?_workspace {w : String} (h : s.holds ⟨.workspace, w⟩ = true) :
    s.workspaceOf? ⟨.workspace, w⟩ = some w := by
  obtain ⟨found, hget⟩ := get?_of_holds h
  simp [workspaceOf?, hget, Row.workspaceId, id_of_get? hget]

/-- The folder of a place belongs to its workspace, and so does the workspace itself. -/
theorem HasPlace.workspaceOf?_eq {workspaceId : String} {folderId : Option String}
    (h : s.HasPlace workspaceId folderId) {ref : Key}
    (href : ref ∈ (⟨.workspace, workspaceId⟩ :: folderId.toList.map (⟨.folder, ·⟩) : List Key)) :
    s.workspaceOf? ref = some workspaceId := by
  rcases List.mem_cons.mp href with rfl | hfolder
  · exact workspaceOf?_workspace h.1
  · obtain ⟨id, hid, rfl⟩ : ∃ id, folderId = some id ∧ (⟨.folder, id⟩ : Key) = ref := by
      simpa using hfolder
    obtain ⟨f, hget, hsame⟩ := h.2 id hid
    simp [workspaceOf?, hget, Row.workspaceId, hsame]

namespace Coherent

variable {k : Kind} {row : Row k} {key other : Key} {w : String}

/-- Every record belongs to a stored workspace. -/
theorem holds_workspace (hs : s.Coherent) (hrow : row ∈ s.rows k) :
    s.holds ⟨.workspace, row.workspaceId⟩ = true := by
  cases k with
  | workspace => exact holds_of_mem hrow
  | folder => exact (hs.contained.folder row hrow).1
  | request p => exact (hs.contained.request p row hrow).1
  | exchange p =>
    -- the workspace of the request is stored, and it is the same one
    obtain ⟨r, hget, hsame⟩ := Option.map_eq_some_iff.mp (hs.together p row hrow)
    have hplace := hs.contained.request p r (mem_of_get? hget)
    have hsame : r.data.workspaceId = row.data.workspaceId := hsame
    show s.holds ⟨.workspace, row.data.workspaceId⟩ = true
    rw [← hsame]
    exact hplace.1

theorem workspaceOf?_key (hs : s.Coherent) (hrow : row ∈ s.rows k) :
    s.workspaceOf? row.key = some row.workspaceId := by
  have hget : s.get? row.key.kind row.key.id = some row := hs.distinct.get?_of_mem hrow
  unfold workspaceOf?
  rw [hget]
  rfl

/-- A record belongs to the same workspace as what it refers to. -/
theorem workspaceOf?_ref (hs : s.Coherent) (hrow : row ∈ s.rows k) {ref : Key}
    (href : ref ∈ row.refs) : s.workspaceOf? ref = some row.workspaceId := by
  cases k with
  | workspace => cases href
  | folder => exact (hs.contained.folder row hrow).workspaceOf?_eq href
  | request p => exact (hs.contained.request p row hrow).workspaceOf?_eq href
  | exchange p =>
    have hrefs : ref = ⟨.workspace, row.data.workspaceId⟩ ∨
        ref = ⟨.request p, row.data.requestId⟩ := by
      simpa [Row.refs, Columns.refs] using href
    rcases hrefs with rfl | rfl
    · exact workspaceOf?_workspace (hs.holds_workspace hrow)
    · exact hs.together p row hrow

/-- What depends on a record belongs to its workspace. -/
theorem workspaceOf?_of_depends (hs : s.Coherent) (h : s.Depends key other) :
    s.workspaceOf? other = s.workspaceOf? key := by
  induction h with
  | self => rfl
  | refers hrow href _ ih => rw [hs.workspaceOf?_key hrow, ← ih, hs.workspaceOf?_ref hrow href]

/-- What depends on a workspace are the records that belong to it. -/
theorem depends_workspace_iff (hs : s.Coherent) (hrow : row ∈ s.rows k) :
    s.Depends ⟨.workspace, w⟩ row.key ↔ row.workspaceId = w := by
  constructor
  · intro h
    have hsame := hs.workspaceOf?_of_depends h
    rw [hs.workspaceOf?_key hrow] at hsame
    obtain ⟨found, hget, hid⟩ := Option.map_eq_some_iff.mp hsame.symm
    rw [← hid]
    exact id_of_get? hget
  · rintro rfl
    cases k with
    | workspace => exact .self
    | folder | request | exchange =>
      exact .refers hrow (by simp [Row.refs, Columns.refs, Row.workspaceId]) .self

/-- A deleted workspace takes along the records that belong to it, and no others. -/
theorem rows_delete_workspace (hs : s.Coherent) (w : String) (k : Kind) :
    (s.delete ⟨.workspace, w⟩).rows k = (s.rows k).filter (·.workspaceId != w) := by
  unfold delete
  rw [rows_keep]
  refine List.filter_congr fun row hrow => ?_
  have hgone : row.key ∈ s.dependents ⟨.workspace, w⟩ ↔ row.workspaceId = w :=
    mem_dependents_iff.trans (hs.depends_workspace_iff hrow)
  by_cases hw : row.workspaceId = w
  · simp [hw, hgone.mpr hw]
  · simp [hw, mt hgone.mp hw]

end Coherent

/-- What is stored stands in a tree, each record under its own identifier, and nothing came back
    from requests. -/
structure Settled (s : Store) : Prop where
  contained : s.Contained
  distinct : s.Distinct
  unanswered : s.Unanswered

/-- Where nothing came back from requests, a tree is all that it takes. -/
theorem Settled.coherent (hs : s.Settled) : s.Coherent where
  contained := hs.contained
  distinct := hs.distinct
  together p e he := by
    rw [hs.unanswered p] at he
    cases he

/-- Every record belongs to a stored workspace. -/
theorem Settled.holds_workspace (hs : s.Settled) {k : Kind} {row : Row k}
    (hrow : row ∈ s.rows k) : s.holds ⟨.workspace, row.workspaceId⟩ = true :=
  hs.coherent.holds_workspace hrow

/-! ### Two stores that agree on a workspace -/

/-- Both stores hold the same records of the workspace, in the same order. -/
def AgreesOn (s t : Store) (w : String) : Prop :=
  ∀ k, (t.rows k).filter (·.workspaceId == w) = (s.rows k).filter (·.workspaceId == w)

/-- A selection that takes neither the written record nor the one that it replaces. -/
theorem filter_rows_put {k : Kind} {row : Row k} {q : Row k → Bool} (hrow : q row = false)
    (hold : ∀ old ∈ s.rows k, old.id = row.id → q old = false) :
    ((s.put row).rows k).filter q = (s.rows k).filter q := by
  cases hheld : s.holds row.key with
  | false => simp [rows_put_of_not_holds hheld, List.filter_append, hrow]
  | true =>
    rw [rows_put_of_holds hheld, List.filter_map]
    have hsame : (s.rows k).filter (q ∘ fun old => if old.id == row.id then row else old) =
        (s.rows k).filter q := by
      refine List.filter_congr fun old hmem => ?_
      by_cases hid : old.id = row.id
      · simp [hid, hrow, hold old hmem hid]
      · simp [hid]
    rw [hsame]
    refine (List.map_congr_left fun old hmem => ?_).trans (List.map_id _)
    obtain ⟨hmem, hq⟩ := List.mem_filter.mp hmem
    have hid : old.id ≠ row.id := by
      intro hid
      rw [hold old hmem hid] at hq
      cases hq
    simp [hid]

namespace AgreesOn

variable {w : String}

/-- A record is written that does not belong to the workspace, over one that does not either. -/
theorem put {k : Kind} {row : Row k} (hrow : row.workspaceId ≠ w)
    (hold : ∀ old ∈ s.rows k, old.id = row.id → old.workspaceId ≠ w) :
    s.AgreesOn (s.put row) w := by
  intro l
  by_cases hl : l = k
  · subst hl
    apply filter_rows_put
    · simpa using hrow
    · simpa using hold
  · rw [rows_put_ne hl]

/-- A record is deleted that does not belong to the workspace. -/
theorem delete (hs : s.Settled) {key : Key} (hkey : s.workspaceOf? key ≠ some w) :
    s.AgreesOn (s.delete key) w := by
  intro k
  unfold Store.delete
  rw [rows_keep, List.filter_filter]
  refine List.filter_congr fun row hrow => ?_
  by_cases hw : row.workspaceId = w
  · have hstays : row.key ∉ s.dependents key := by
      rw [mem_dependents_iff]
      intro hdepends
      apply hkey
      rw [← hs.coherent.workspaceOf?_of_depends hdepends, hs.coherent.workspaceOf?_key hrow, hw]
    simp [hw, hstays]
  · simp [hw]

section answers

variable (h : s.AgreesOn t w)

include h

theorem mem_rows {k : Kind} {row : Row k} (hrow : row ∈ s.rows k) (hw : row.workspaceId = w) :
    row ∈ t.rows k := by
  have hmem : row ∈ (t.rows k).filter (·.workspaceId == w) := by
    rw [h k]
    exact List.mem_filter.mpr ⟨hrow, by simpa using hw⟩
  exact List.mem_of_mem_filter hmem

theorem get?_eq (ht : t.Distinct) {k : Kind} {id : String} {row : Row k}
    (hget : s.get? k id = some row) (hw : row.workspaceId = w) : t.get? k id = some row := by
  have hfound := ht.get?_of_mem (h.mem_rows (mem_of_get? hget) hw)
  rwa [id_of_get? hget] at hfound

/-- Above a place in the workspace, the stores agree. -/
theorem agreesAbove (hs : s.Contained) (ht : t.Distinct) {n : Node} (hn : n.workspaceId = some w)
    (hplace : s.HasPlace w n.folderId) : s.AgreesAbove t n where
  folder start id hstart habove := by
    rw [hstart] at hplace
    obtain ⟨f, hget, hsame⟩ := (hplace.along hs habove).2 id rfl
    rw [hget, h.get?_eq ht hget hsame]
  workspace id hid := by
    obtain rfl : w = id := Option.some.inj (hn.symm.trans hid)
    obtain ⟨found, hget⟩ := get?_of_holds hplace.1
    rw [hget, h.get?_eq ht hget (id_of_get? hget)]

theorem foldersOf_eq : t.foldersOf w = s.foldersOf w :=
  h .folder

theorem requestsOf_eq (p : Protocol) : t.requestsOf p (some w) = s.requestsOf p (some w) := by
  have hfilter : ∀ u : Store, u.requestsOf p (some w) =
      (u.rows (.request p)).filter (·.workspaceId == w) := by
    intro u
    refine List.filter_congr fun r _ => ?_
    simp [Row.workspaceId]
  rw [hfilter, hfilter, h (.request p)]

end answers

end AgreesOn

/-! ### Listings stay in the workspace -/

/-- A walk down looks only at folders that lie inside. -/
theorem below_filter (start : String) {q : Row .folder → Bool} (inside : String → Prop) :
    (∀ pool id, inside id →
      (∀ f ∈ pool, ∀ parent, f.data.folderId = some parent → inside parent →
        q f = true ∧ inside f.id) →
      below start (pool.filter q) id = below start pool id) ∧
    ∀ pool fs, (∀ f ∈ fs, inside f.id) →
      (∀ f ∈ pool, ∀ parent, f.data.folderId = some parent → inside parent →
        q f = true ∧ inside f.id) →
      belowAll start (pool.filter q) fs = belowAll start pool fs := by
  apply below.mutual_induct start
  case case1 =>
    intro pool id ih hid hclosed
    have hothers : othersIn (pool.filter q) id = (othersIn pool id).filter q := by
      unfold othersIn
      rw [List.filter_filter, List.filter_filter]
      exact List.filter_congr fun f _ => Bool.and_comm _ _
    -- the children all lie inside, so all of them are selected
    have hchildren : childrenIn (pool.filter q) id = childrenIn pool id := by
      unfold childrenIn
      rw [List.filter_filter]
      refine List.filter_congr fun f hf => ?_
      by_cases hlies : f.data.folderId = some id
      · simp [hlies, (hclosed f hf id hlies hid).1]
      · simp [hlies]
    have hrest : belowAll start ((othersIn pool id).filter q) (childrenIn pool id) =
        belowAll start (othersIn pool id) (childrenIn pool id) := by
      apply ih
      · intro f hf
        obtain ⟨hmem, hlies⟩ := List.mem_filter.mp hf
        exact (hclosed f hmem id (by simpa using hlies) hid).2
      · exact fun f hf => hclosed f (List.mem_of_mem_filter hf)
    rw [below, below, hothers, hchildren, hrest]
  case case2 =>
    intro pool _ _
    rw [belowAll, belowAll]
  case case3 =>
    intro pool f rest hstart _ _
    rw [belowAll, belowAll, if_pos hstart, if_pos hstart]
  case case4 =>
    intro pool f rest hstart ihfirst ihrest hinside hclosed
    have hfirst := ihfirst (hinside f List.mem_cons_self) hclosed
    have hrest := ihrest (fun g hg => hinside g (List.mem_cons_of_mem _ hg)) hclosed
    rw [belowAll, belowAll, if_neg hstart, if_neg hstart, hfirst, hrest]

section listing

variable {id : String} {f : Row .folder}

/-- The folders below a folder are found among those of its workspace. -/
theorem Settled.foldersUnder_eq (hs : s.Settled) (hget : s.get? .folder id = some f) :
    s.foldersUnder id = below id (s.foldersOf f.data.workspaceId) id := by
  refine ((below_filter id fun other => ∃ g, s.get? .folder other = some g ∧
    g.data.workspaceId = f.data.workspaceId).1 s.folders id ⟨f, hget, rfl⟩ ?_).symm
  rintro g hg parent hlies ⟨above, habove, hsame⟩
  have hplace := hs.contained.folder g hg
  rw [hlies] at hplace
  obtain ⟨found, hfound, hworkspace⟩ := hplace.2 parent rfl
  obtain rfl : above = found := Option.some.inj (habove.symm.trans hfound)
  have hown : g.data.workspaceId = f.data.workspaceId := hworkspace.symm.trans hsame
  exact ⟨by simpa using hown, g, hs.distinct.get?_of_mem hg, hown⟩

/-- What lies below a folder belongs to its workspace. -/
theorem Settled.workspace_below (hs : s.Settled) (hget : s.get? .folder id = some f)
    {other : String} (hbelow : ReflTransGen s.LiesIn other id) :
    ∃ g, s.get? .folder other = some g ∧ g.data.workspaceId = f.data.workspaceId := by
  rcases hbelow.cases_head with rfl | ⟨_, ⟨g, hg, -⟩, -⟩
  · exact ⟨f, hget, rfl⟩
  · -- the folder above belongs to the workspace of the folder below
    have hplace : s.HasPlace g.data.workspaceId (some other) := by
      refine ⟨(hs.contained.folder g (mem_of_get? hg)).1, fun x hx => ?_⟩
      obtain rfl := Option.some.inj hx
      exact ⟨g, hg, rfl⟩
    obtain ⟨found, hfound, hsame⟩ := (hplace.along hs.contained hbelow).2 id rfl
    obtain rfl : f = found := Option.some.inj (hget.symm.trans hfound)
    exact ⟨g, hg, hsame.symm⟩

/-- The requests in a folder are found among those of its workspace. -/
theorem Settled.requestsIn_eq (hs : s.Settled) (hget : s.get? .folder id = some f) (p : Protocol) :
    s.requestsIn p id =
      (s.requestsOf p (some f.data.workspaceId)).filter fun r => r.data.folderId == some id := by
  unfold requestsIn requestsOf
  rw [List.filter_filter]
  refine List.filter_congr fun r hr => ?_
  by_cases hlies : r.data.folderId = some id
  · have hplace := hs.contained.request p r hr
    rw [hlies] at hplace
    obtain ⟨found, hfound, hsame⟩ := hplace.2 id rfl
    obtain rfl : f = found := Option.some.inj (hget.symm.trans hfound)
    simp [hlies, hsame]
  · simp [hlies]

/-- Stores that agree on a workspace list the same requests below its folders. -/
theorem AgreesOn.requestsUnder_eq {w : String} (h : s.AgreesOn t w) (hs : s.Settled)
    (ht : t.Settled) (hget : s.get? .folder id = some f) (hw : f.data.workspaceId = w)
    (p : Protocol) : t.requestsUnder p id = s.requestsUnder p id := by
  have hfolders : t.foldersUnder id = s.foldersUnder id := by
    rw [hs.foldersUnder_eq hget, ht.foldersUnder_eq (h.get?_eq ht.distinct hget hw), hw,
      h.foldersOf_eq]
  rw [requestsUnder_eq_foldersUnder hs.distinct,
      requestsUnder_eq_foldersUnder ht.distinct, hfolders]
  cases hids : s.foldersUnder id with
  | error e => rfl
  | ok ids =>
    refine congrArg Except.ok (List.flatMap_congr fun other hother => ?_)
    -- each of the folders belongs to the workspace
    have hbelow := (mem_foldersUnder_iff hs.distinct hids).mp hother
    obtain ⟨g, hg, hsame⟩ := hs.workspace_below hget hbelow
    have hown : g.data.workspaceId = w := hsame.trans hw
    rw [hs.requestsIn_eq hg, ht.requestsIn_eq (h.get?_eq ht.distinct hg hown), hown,
      h.requestsOf_eq p]

end listing

end Store

/-- Wherever calls get, the store is settled. -/
theorem Catalog.Served.settled {c : Catalog} (hc : c.Served) : c.store.Settled :=
  ⟨hc.contained, hc.reached.intact.distinct, hc.unanswered⟩

end RequestCatalog
