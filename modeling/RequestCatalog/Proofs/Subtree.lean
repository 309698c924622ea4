import RequestCatalog.Proofs.Reached
import RequestCatalog.Proofs.Walk

/-! # What lies below a folder

  Two questions ask for everything below a folder. Listing its requests walks down
  from folder to folder, and deleting it takes along whatever depends on it. They are
  answered by different means, and the way up is the measure of both:

  * `Store.mem_foldersUnder_iff`: a walk down that succeeds finds exactly the folders
    from which the way up comes to the folder.
  * `Store.depends_iff_below`: what depends on a folder are the same folders, the
    requests in them, and what came back from these requests.

  So deleting a folder takes exactly the requests that its listing shows.
-/

namespace RequestCatalog

open Relation

namespace Store

variable {s : Store}

/-! ### Walking down -/

/-- A folder of the pool lies directly in the other one. -/
def LiesAmong (pool : List (Row .folder)) (id parent : String) : Prop :=
  ∃ f ∈ pool, f.id = id ∧ f.data.folderId = some parent

/-- These are the folders at the top and all folders of the pool below them. -/
structure FoundBelow (pool : List (Row .folder)) (tops ids : List String) : Prop where
  top : ∀ id ∈ tops, id ∈ ids
  closed : ∀ f ∈ pool, ∀ parent ∈ ids, f.data.folderId = some parent → f.id ∈ ids
  leads : ∀ id ∈ ids, ∃ top ∈ tops, ReflTransGen (LiesAmong pool) id top

namespace FoundBelow

variable {pool : List (Row .folder)} {tops others ids more : List String} {id other : String}

theorem nil : FoundBelow pool [] [] :=
  ⟨by simp, by simp, by simp⟩

theorem append (h : FoundBelow pool tops ids) (h' : FoundBelow pool others more) :
    FoundBelow pool (tops ++ others) (ids ++ more) where
  top id hid := by
    rcases List.mem_append.mp hid with hfirst | hsecond
    · exact List.mem_append_left _ (h.top id hfirst)
    · exact List.mem_append_right _ (h'.top id hsecond)
  closed f hf parent hparent hlies := by
    rcases List.mem_append.mp hparent with hfirst | hsecond
    · exact List.mem_append_left _ (h.closed f hf parent hfirst hlies)
    · exact List.mem_append_right _ (h'.closed f hf parent hsecond hlies)
  leads id hid := by
    rcases List.mem_append.mp hid with hfirst | hsecond
    · obtain ⟨top, htop, hleads⟩ := h.leads id hfirst
      exact ⟨top, List.mem_append_left _ htop, hleads⟩
    · obtain ⟨top, htop, hleads⟩ := h'.leads id hsecond
      exact ⟨top, List.mem_append_right _ htop, hleads⟩

/-- A folder is found after what lies below its children. Its children are not searched for
    any further. -/
theorem parent (h : FoundBelow (othersIn pool id) ((childrenIn pool id).map Row.id) ids) :
    FoundBelow pool [id] (ids ++ [id]) where
  top := by simp
  closed f hf parent hparent hlies := by
    apply List.mem_append_left
    by_cases hchild : f.data.folderId = some id
    · apply h.top
      exact List.mem_map.mpr ⟨f, List.mem_filter.mpr ⟨hf, by simp [hchild]⟩, rfl⟩
    · -- the folder lies in one that was found below
      have hbelow : parent ∈ ids := by
        rcases List.mem_append.mp hparent with hmem | hlast
        · exact hmem
        · rw [List.mem_singleton.mp hlast] at hlies
          exact absurd hlies hchild
      exact h.closed f (List.mem_filter.mpr ⟨hf, by simp [hchild]⟩) parent hbelow hlies
  leads other hother := by
    refine ⟨id, List.mem_singleton.mpr rfl, ?_⟩
    rcases List.mem_append.mp hother with hmem | hlast
    · obtain ⟨top, htop, hleads⟩ := h.leads other hmem
      obtain ⟨child, hchild, rfl⟩ := List.mem_map.mp htop
      obtain ⟨hpool, hlies⟩ := List.mem_filter.mp hchild
      have hlast : LiesAmong pool child.id id := ⟨child, hpool, rfl, by simpa using hlies⟩
      refine .tail (ReflTransGen.mono (fun a b hstep => ?_) _ _ hleads) hlast
      obtain ⟨f, hf, hstep⟩ := hstep
      exact ⟨f, List.mem_of_mem_filter hf, hstep⟩
    · rw [List.mem_singleton.mp hlast]

/-- What is found below one folder are the folders from which the way up comes to it. -/
theorem mem_iff (h : FoundBelow pool [id] ids) :
    other ∈ ids ↔ ReflTransGen (LiesAmong pool) other id := by
  constructor
  · intro hmem
    obtain ⟨top, htop, hleads⟩ := h.leads other hmem
    rwa [List.mem_singleton.mp htop] at hleads
  · intro hleads
    -- by induction on the way, from the folder down
    induction hleads using ReflTransGen.head_induction_on with
    | refl => exact h.top id (List.mem_singleton.mpr rfl)
    | head hlies _ ih =>
      obtain ⟨f, hf, rfl, hparent⟩ := hlies
      exact h.closed f hf _ ih hparent

end FoundBelow

/-- A walk down that succeeds finds what lies below. -/
theorem foundBelow_of_ok (start : String) :
    (∀ pool id, ∀ ids, below start pool id = .ok ids → FoundBelow pool [id] ids) ∧
      ∀ pool fs, ∀ ids, belowAll start pool fs = .ok ids →
        FoundBelow pool (fs.map Row.id) ids := by
  apply below.mutual_induct start
  case case1 =>
    intro pool id ih ids h
    rw [below] at h
    obtain ⟨rest, hrest, rfl⟩ := map_eq_ok_iff.mp h
    exact (ih rest hrest).parent
  case case2 =>
    intro pool ids h
    rw [belowAll] at h
    obtain rfl : [] = ids := pure_eq_ok_iff.mp h
    exact .nil
  case case3 =>
    intro pool f rest hstart ids h
    rw [belowAll, if_pos hstart] at h
    cases h
  case case4 =>
    intro pool f rest hstart ihfirst ihrest ids h
    rw [belowAll, if_neg hstart] at h
    obtain ⟨first, hfirst, h⟩ := bind_eq_ok_iff.mp h
    obtain ⟨others, hothers, h⟩ := bind_eq_ok_iff.mp h
    obtain rfl := pure_eq_ok_iff.mp h
    exact (ihfirst first hfirst).append (ihrest others hothers)

/-- A walk down fails only where it comes back to the folder that it began with. -/
theorem below_error (start : String) :
    (∀ pool id, ∀ e, below start pool id = .error e → e = .folderCycle start) ∧
      ∀ pool fs, ∀ e, belowAll start pool fs = .error e → e = .folderCycle start := by
  apply below.mutual_induct start
  case case1 =>
    intro pool id ih e h
    rw [below] at h
    exact ih e (map_eq_error_iff.mp h)
  case case2 =>
    intro pool e h
    rw [belowAll] at h
    cases h
  case case3 =>
    intro pool f rest hstart e h
    rw [belowAll, if_pos hstart] at h
    exact (Except.error.inj h).symm
  case case4 =>
    intro pool f rest hstart ihfirst ihrest e h
    rw [belowAll, if_neg hstart] at h
    rcases bind_eq_error_iff.mp h with hfirst | ⟨first, -, h⟩
    · exact ihfirst e hfirst
    · rcases bind_eq_error_iff.mp h with hothers | ⟨others, -, h⟩
      · exact ihrest e hothers
      · cases h

theorem liesAmong_folders (hs : s.Distinct) : LiesAmong s.folders = s.LiesIn := by
  funext id parent
  apply propext
  constructor
  · rintro ⟨f, hf, rfl, hparent⟩
    exact ⟨f, hs.get?_of_mem hf, hparent⟩
  · rintro ⟨f, hget, hparent⟩
    exact ⟨f, mem_of_get? hget, id_of_get? hget, hparent⟩

/-- A walk down that succeeds finds exactly the folders from which the way up comes to the
    folder. -/
theorem mem_foldersUnder_iff (hs : s.Distinct) {id other : String} {ids : List String}
    (h : s.foldersUnder id = .ok ids) : other ∈ ids ↔ ReflTransGen s.LiesIn other id := by
  rw [← liesAmong_folders hs]
  exact ((foundBelow_of_ok id).1 s.folders id ids h).mem_iff

/-! ### Depending on a folder -/

/-- The record lies below the folder: it is the folder or one below it, a request in one of
    these, or what came back from such a request. -/
def Below (s : Store) (id : String) : Key → Prop
  | ⟨.workspace, _⟩ => False
  | ⟨.folder, other⟩ => ReflTransGen s.LiesIn other id
  | ⟨.request p, other⟩ =>
    ∃ r ∈ s.rows (.request p), r.id = other ∧
      ∃ folderId, r.data.folderId = some folderId ∧ ReflTransGen s.LiesIn folderId id
  | ⟨.exchange p, other⟩ =>
    ∃ e ∈ s.rows (.exchange p), e.id = other ∧
      ∃ r ∈ s.rows (.request p), r.id = e.data.requestId ∧
        ∃ folderId, r.data.folderId = some folderId ∧ ReflTransGen s.LiesIn folderId id

/-- What refers to a record below a folder lies below the folder. -/
theorem below_of_ref (hs : s.Distinct) {id : String} {k : Kind} {row : Row k} {ref : Key}
    (hrow : row ∈ s.rows k) (href : ref ∈ row.refs) (hbelow : s.Below id ref) :
    s.Below id row.key := by
  cases k with
  | workspace => cases href
  | folder =>
    rcases List.mem_cons.mp href with rfl | hparent
    · exact hbelow.elim
    · obtain ⟨parent, hlies, rfl⟩ : ∃ parent, row.data.folderId = some parent ∧
          (⟨.folder, parent⟩ : Key) = ref := by simpa using hparent
      exact ReflTransGen.head ⟨row, hs.get?_of_mem hrow, hlies⟩ hbelow
  | request p =>
    rcases List.mem_cons.mp href with rfl | hfolder
    · exact hbelow.elim
    · obtain ⟨folderId, hlies, rfl⟩ : ∃ folderId, row.data.folderId = some folderId ∧
          (⟨.folder, folderId⟩ : Key) = ref := by simpa using hfolder
      exact ⟨row, hrow, rfl, folderId, hlies, hbelow⟩
  | exchange p =>
    rcases List.mem_cons.mp href with rfl | hrequest
    · exact hbelow.elim
    · obtain rfl := List.mem_singleton.mp hrequest
      obtain ⟨r, hr, hid, hlies⟩ := hbelow
      exact ⟨row, hrow, rfl, r, hr, hid, hlies⟩

/-- What depends on a folder is what lies below it. -/
theorem depends_iff_below (hs : s.Distinct) {id : String} {key : Key} :
    s.Depends ⟨.folder, id⟩ key ↔ s.Below id key := by
  constructor
  · intro h
    induction h with
    | self => exact ReflTransGen.refl
    | refers hrow href _ ih => exact below_of_ref hs hrow href ih
  · have hfolder : ∀ {other}, ReflTransGen s.LiesIn other id →
        s.Depends ⟨.folder, id⟩ ⟨.folder, other⟩ := by
      intro other hleads
      induction hleads using ReflTransGen.head_induction_on with
      | refl => exact .self
      | head hlies _ ih =>
        obtain ⟨f, hf, hparent⟩ := hlies
        obtain rfl := id_of_get? hf
        exact .refers (mem_of_get? hf) (by simp [Row.refs, Columns.refs, hparent]) ih
    have hrequest : ∀ {p} {r : Row (.request p)} {folderId}, r ∈ s.rows (.request p) →
        r.data.folderId = some folderId → ReflTransGen s.LiesIn folderId id →
        s.Depends ⟨.folder, id⟩ r.key := by
      intro p r folderId hr hlies hleads
      exact .refers hr (by simp [Row.refs, Columns.refs, hlies]) (hfolder hleads)
    obtain ⟨k, other⟩ := key
    cases k with
    | workspace => exact False.elim
    | folder => exact hfolder
    | request p =>
      rintro ⟨r, hr, rfl, folderId, hlies, hleads⟩
      exact hrequest hr hlies hleads
    | exchange p =>
      rintro ⟨e, he, rfl, r, hr, hid, folderId, hlies, hleads⟩
      exact .refers he (by simp [Row.refs, Columns.refs, ← hid, Row.key]) (hrequest hr hlies hleads)

end Store

end RequestCatalog
