import RequestCatalog.Proofs.Inheritance.Authentication
import RequestCatalog.Proofs.PostOrder

/-! # Listing a folder with a stack

  A listing works off a stack of folders to enter and folders to leave, and keeps the folders it
  entered. Nothing in it says which folder lies where, so this is shown here.

  * `Store.gather_of_postOrder`: from a folder that does not lie in itself, of which nothing was
    entered, the work comes to the post-order and goes on with what was left to do.
  * `Store.not_cyclic_of_gather`: where the work succeeds, no folder that was to be entered lies
    in itself.
  * `Store.Visiting`: a folder comes to the stack when the folder that it lies in is entered, and
    so it comes once. The one that can come again is the folder that the work began with
    (`Store.Visiting.error`).

  So the stack lists what the recursion of `Store.foldersUnder` lists, and fails where it fails
  (`Store.requestsUnder_eq_foldersUnder`).
-/

namespace RequestCatalog

open Relation

namespace Store

variable {s : Store} {p : Protocol} {id start : String} {seen : List String}
    {rest visits : List Visit}

/-! ### One visit at a time -/

@[simp] theorem gather_nil : s.gather p seen [] = .ok [] := by
  rw [gather]

theorem gather_leave :
    s.gather p seen (.leave id :: rest) = (s.requestsIn p id ++ ·) <$> s.gather p seen rest := by
  rw [gather]

theorem gather_enter_of_seen (h : id ∈ seen) :
    s.gather p seen (.enter id :: rest) = .error (.folderCycle id) := by
  rw [gather]
  split
  · rfl
  · next hnew => simp [h] at hnew

theorem gather_enter (h : id ∉ seen) :
    s.gather p seen (.enter id :: rest) = s.gather p (id :: seen)
      ((childrenIn s.folders id).map (fun f => .enter f.id) ++ .leave id :: rest) := by
  rw [gather]
  split
  · next hseen => simp [h] at hseen
  · rfl

/-! ### From a folder that does not lie in itself -/

/-- Wherever nothing at or below the folder was entered, the visit of the folder comes to these
    requests. Then it has entered nothing else, and what was left to do is left to do. -/
def Lists (s : Store) (p : Protocol) (id : String) (listed : List (Row (.request p))) : Prop :=
  ∀ (seen : List String) (rest : List Visit),
    (∀ other, ReflTransGen s.LiesIn other id → other ∉ seen) →
    ∃ more, (∀ other ∈ more, other ∈ seen ∨ ReflTransGen s.LiesIn other id) ∧
      s.gather p seen (.enter id :: rest) = (listed ++ ·) <$> s.gather p more rest

/-- Folders inside a folder that does not lie in itself are visited in turn. Nothing below one of
    them is below another, so each of them is new when its turn comes. -/
theorem gather_children (hs : s.Distinct) {id : String} (hfree : ¬ TransGen s.LiesIn id id)
    {inner : Row .folder → List (Row (.request p))}
    (hinner : ∀ f ∈ childrenIn s.folders id, s.Lists p f.id (inner f))
    {fs : List (Row .folder)} (hnodup : fs.Nodup)
    (hchildren : ∀ f ∈ fs, f ∈ childrenIn s.folders id)
    (seen : List String) (rest : List Visit)
    (hnew : ∀ f ∈ fs, ∀ other, ReflTransGen s.LiesIn other f.id → other ∉ seen) :
    ∃ more, (∀ other ∈ more, other ∈ seen ∨ ReflTransGen s.LiesIn other id) ∧
      s.gather p seen (fs.map (fun f => .enter f.id) ++ rest) =
        (fs.flatMap inner ++ ·) <$> s.gather p more rest := by
  induction fs generalizing seen rest with
  | nil => exact ⟨seen, fun other hother => .inl hother, by simp⟩
  | cons f fs ih =>
    obtain ⟨hf, hfs⟩ := List.forall_mem_cons.mp hchildren
    obtain ⟨hnewf, hnewfs⟩ := List.forall_mem_cons.mp hnew
    obtain ⟨hother, hnodup⟩ := List.nodup_cons.mp hnodup
    obtain ⟨entered, hentered, hfirst⟩ :=
      hinner f hf seen (fs.map (fun f => .enter f.id) ++ rest) hnewf
    have hstill : ∀ g ∈ fs, ∀ below, ReflTransGen s.LiesIn below g.id → below ∉ entered := by
      intro g hg below hbelow hmem
      rcases hentered below hmem with hold | hfirst
      · exact hnewfs g hg below hbelow hold
      · have hne : f ≠ g := fun heq => hother (heq ▸ hg)
        exact not_below_siblings hs hfree hf (hfs g hg) hne hfirst hbelow
    obtain ⟨more, hmore, hothers⟩ := ih hnodup hfs entered rest hstill
    refine ⟨more, fun other hother => ?_, ?_⟩
    · rcases hmore other hother with hmem | hbelow
      · refine (hentered other hmem).imp_right fun hbelow => ?_
        exact hbelow.tail (liesIn_of_mem_childrenIn hs hf)
      · exact .inr hbelow
    · rw [List.map_cons, List.cons_append, hfirst, hothers, List.flatMap_cons]
      cases s.gather p more rest <;> simp

/-- The visit of a folder comes to its post-order. -/
theorem gather_of_postOrder (hs : s.Distinct) {listed : List (Row (.request p))}
    (h : s.PostOrder p id listed) : s.Lists p id listed := by
  induction h with
  | @folder id inner hinner ih =>
    intro seen rest hnew
    have hfree := (PostOrder.folder hinner).not_cyclic
    -- the folder itself is entered first, and is not below the folders inside
    have hentered : ∀ f ∈ childrenIn s.folders id, ∀ other, ReflTransGen s.LiesIn other f.id →
        other ∉ id :: seen := by
      intro f hf other hbelow hmem
      have hlies := liesIn_of_mem_childrenIn hs hf
      rcases List.mem_cons.mp hmem with rfl | hold
      · exact hfree (.tail' hbelow hlies)
      · exact hnew other (hbelow.tail hlies) hold
    have hnodup : (childrenIn s.folders id).Nodup := ((hs .folder).of_map _).filter _
    obtain ⟨more, hmore, hinside⟩ :=
      gather_children hs hfree ih hnodup (fun f hf => hf) (id :: seen) (.leave id :: rest) hentered
    refine ⟨more, fun other hother => ?_, ?_⟩
    · rcases hmore other hother with hmem | hbelow
      · rcases List.mem_cons.mp hmem with rfl | hold
        · exact .inr .refl
        · exact .inl hold
      · exact .inr hbelow
    · rw [gather_enter (hnew id .refl), hinside, gather_leave]
      cases s.gather p more rest <;> simp

/-! ### From a folder that lies in itself -/

/-- Where the work succeeds, no folder that was to be entered lies in itself. -/
theorem not_cyclic_of_gather {listed : List (Row (.request p))}
    (h : s.gather p seen visits = .ok listed) :
    ∀ id, .enter id ∈ visits → ¬ TransGen s.LiesIn id id := by
  induction seen, visits using gather.induct s generalizing listed with
  | case1 seen => simp
  | case2 seen id rest ih =>
    rw [gather_leave] at h
    obtain ⟨others, hothers, -⟩ := map_eq_ok_iff.mp h
    intro other hother
    exact ih hothers other (by simpa using hother)
  | case3 seen id rest hseen =>
    rw [gather_enter_of_seen (List.contains_iff_mem.mp hseen)] at h
    cases h
  | case4 seen id rest hseen ih =>
    rw [gather_enter (by simpa using hseen)] at h
    intro other hother hcycle
    rcases List.mem_cons.mp hother with heq | hold
    · cases heq
      -- the last folder on the way round lies directly in this one, and goes round as well
      obtain ⟨last, hway, hlies⟩ := TransGen.tail'_iff.mp hcycle
      obtain ⟨f, hf, rfl⟩ := exists_childrenIn hlies
      exact ih h f.id (by simpa using .inl ⟨f, hf, rfl⟩) (.head' hlies hway)
    · exact ih h other (by simp [hold]) hcycle

/-- The folder that a visit enters. -/
def Visit.entered? : Visit → Option String
  | .enter id => some id
  | .leave _ => none

/-- How far the work has come. Each folder that is to be entered lies in one that was entered, and
    so does each that was entered, the start apart. None but the start can come again. -/
structure Visiting (s : Store) (start : String) (seen : List String) (visits : List Visit) :
    Prop where
  entered : ∀ id ∈ seen, id ≠ start → ∃ parent ∈ seen, s.LiesIn id parent
  waiting : ∀ id ∈ visits.filterMap Visit.entered?, ∃ parent ∈ seen, s.LiesIn id parent
  fresh : ∀ id ∈ visits.filterMap Visit.entered?, id ∈ seen → id = start
  once : (visits.filterMap Visit.entered?).Nodup

namespace Visiting

/-- What comes to the stack when a folder is entered. -/
theorem entered?_childrenIn (s : Store) (id : String) (rest : List Visit) :
    ((childrenIn s.folders id).map (fun f => Visit.enter f.id) ++ Visit.leave id :: rest).filterMap
        Visit.entered? =
      (childrenIn s.folders id).map Row.id ++ rest.filterMap Visit.entered? := by
  rw [List.filterMap_append, List.filterMap_map]
  congr 1
  exact congrFun (List.filterMap_eq_map (f := Row.id)) _

theorem nodup_childrenIn (hs : s.Distinct) (id : String) :
    ((childrenIn s.folders id).map Row.id).Nodup :=
  (hs .folder).sublist (List.filter_sublist.map _)

/-- A folder inside another one is waiting when that one was entered. -/
theorem liesIn_of_mem_ids (hs : s.Distinct) {other : String}
    (h : other ∈ (childrenIn s.folders id).map Row.id) : s.LiesIn other id := by
  obtain ⟨f, hf, rfl⟩ := List.mem_map.mp h
  exact liesIn_of_mem_childrenIn hs hf

/-- The work begins with the folders inside the start. -/
theorem begins (hs : s.Distinct) (id : String) :
    s.Visiting id [id] ((childrenIn s.folders id).map (fun f => Visit.enter f.id) ++
        [Visit.leave id]) where
  entered other hother hne := absurd (List.mem_singleton.mp hother) hne
  waiting other hother := by
    rw [entered?_childrenIn, List.filterMap_nil, List.append_nil] at hother
    exact ⟨id, List.mem_singleton.mpr rfl, liesIn_of_mem_ids hs hother⟩
  fresh other _ hother := List.mem_singleton.mp hother
  once := by
    rw [entered?_childrenIn, List.filterMap_nil, List.append_nil]
    exact nodup_childrenIn hs id

theorem leave (h : s.Visiting start seen (.leave id :: rest)) : s.Visiting start seen rest :=
  ⟨h.entered, h.waiting, h.fresh, h.once⟩

/-- The folders inside a folder come to the stack when it is entered, and not before. -/
theorem enter (hs : s.Distinct) (h : s.Visiting start seen (.enter id :: rest)) (hnew : id ∉ seen) :
    s.Visiting start (id :: seen)
      ((childrenIn s.folders id).map (fun f => Visit.enter f.id) ++ Visit.leave id :: rest) := by
  obtain ⟨hself, honce⟩ := List.nodup_cons.mp h.once
  obtain ⟨⟨parent, hparent, hlies⟩, hwaiting⟩ := List.forall_mem_cons.mp h.waiting
  -- who lies in this folder lies in no folder that was entered before
  have hinside : ∀ other, s.LiesIn other id → ¬ ∃ above ∈ seen, s.LiesIn other above := by
    rintro other hin ⟨above, habove, hlies⟩
    exact hnew (hin.unique hlies ▸ habove)
  refine ⟨?_, ?_, ?_, ?_⟩
  · intro other hother hne
    rcases List.mem_cons.mp hother with rfl | hold
    · exact ⟨parent, List.mem_cons_of_mem _ hparent, hlies⟩
    · obtain ⟨above, habove, hup⟩ := h.entered other hold hne
      exact ⟨above, List.mem_cons_of_mem _ habove, hup⟩
  · rw [entered?_childrenIn]
    intro other hother
    rcases List.mem_append.mp hother with hchild | hold
    · exact ⟨id, List.mem_cons_self, liesIn_of_mem_ids hs hchild⟩
    · obtain ⟨above, habove, hup⟩ := hwaiting other hold
      exact ⟨above, List.mem_cons_of_mem _ habove, hup⟩
  · rw [entered?_childrenIn]
    intro other hother hseen
    rcases List.mem_append.mp hother with hchild | hold
    · have hin := liesIn_of_mem_ids hs hchild
      rcases List.mem_cons.mp hseen with rfl | hseen
      · exact absurd ⟨parent, hparent, hlies⟩ (hinside other hin)
      · by_contra hne
        exact hinside other hin (h.entered other hseen hne)
    · rcases List.mem_cons.mp hseen with rfl | hseen
      · exact absurd hold hself
      · exact h.fresh other (List.mem_cons_of_mem _ hold) hseen
  · rw [entered?_childrenIn, List.nodup_append']
    refine ⟨nodup_childrenIn hs id, honce, fun other hchild hold => ?_⟩
    exact hinside other (liesIn_of_mem_ids hs hchild) (hwaiting other hold)

/-- The one folder that can be entered again is the start. -/
theorem error (hs : s.Distinct) (h : s.Visiting start seen visits) {fault : Fault}
    (hfault : s.gather p seen visits = .error fault) : fault = .folderCycle start := by
  induction seen, visits using gather.induct s with
  | case1 seen =>
    rw [gather_nil] at hfault
    cases hfault
  | case2 seen id rest ih =>
    rw [gather_leave] at hfault
    exact ih h.leave (map_eq_error_iff.mp hfault)
  | case3 seen id rest hseen =>
    have hmem := List.contains_iff_mem.mp hseen
    rw [gather_enter_of_seen hmem] at hfault
    rw [← Except.error.inj hfault, h.fresh id List.mem_cons_self hmem]
  | case4 seen id rest hseen ih =>
    have hnew : id ∉ seen := by simpa using hseen
    rw [gather_enter hnew] at hfault
    exact ih (h.enter hs hnew) hfault

end Visiting

/-! ### Listings -/

/-- A listing fails only where the work comes back to the folder that was asked about. -/
theorem requestsUnder_error (hs : s.Distinct) {fault : Fault}
    (h : s.requestsUnder p id = .error fault) : fault = .folderCycle id := by
  rw [requestsUnder, gather_enter List.not_mem_nil] at h
  exact (Visiting.begins hs id).error hs h

/-- Of a folder that does not lie in itself the listing is shown, in post-order. -/
theorem exists_postOrder (hs : s.Distinct) (hfree : ¬ TransGen s.LiesIn id id) :
    ∃ listed, s.requestsUnder p id = .ok listed ∧ s.PostOrder p id listed := by
  obtain ⟨ids, -, hlisted⟩ := (below_postOrder hs p id).1 s.folders id ⟨.all, hfree, hfree⟩
  obtain ⟨more, -, hgathered⟩ := gather_of_postOrder hs hlisted [] [] (by simp)
  refine ⟨_, ?_, hlisted⟩
  rw [requestsUnder, hgathered, gather_nil]
  simp

/-- A listing is shown exactly if it is in post-order. -/
theorem requestsUnder_eq_ok_iff (hs : s.Distinct) {listed : List (Row (.request p))} :
    s.requestsUnder p id = .ok listed ↔ s.PostOrder p id listed := by
  constructor
  · intro h
    obtain ⟨other, hother, hpost⟩ :=
      exists_postOrder (p := p) hs (not_cyclic_of_gather h id List.mem_cons_self)
    obtain rfl := Except.ok.inj (h.symm.trans hother)
    exact hpost
  · intro h
    obtain ⟨other, hother, hpost⟩ := exists_postOrder (p := p) hs h.not_cyclic
    rw [hother, h.unique hpost]

/-- A listing fails exactly if the folder lies in itself, and then names it. -/
theorem requestsUnder_eq_error_iff (hs : s.Distinct) {fault : Fault} :
    s.requestsUnder p id = .error fault ↔
      fault = .folderCycle id ∧ TransGen s.LiesIn id id := by
  constructor
  · intro h
    refine ⟨requestsUnder_error hs h, ?_⟩
    by_contra hfree
    obtain ⟨listed, hlisted, -⟩ := exists_postOrder (p := p) hs hfree
    rw [h] at hlisted
    cases hlisted
  · rintro ⟨rfl, hcycle⟩
    cases h : s.requestsUnder p id with
    | error e => rw [requestsUnder_error hs h]
    | ok listed => exact absurd hcycle ((requestsUnder_eq_ok_iff hs).mp h).not_cyclic

/-- The stack lists what the recursion lists: the requests of each folder below, the folders in
    the order in which the recursion comes out of them. -/
theorem requestsUnder_eq_foldersUnder (hs : s.Distinct) (p : Protocol) (id : String) :
    s.requestsUnder p id = (·.flatMap (s.requestsIn p)) <$> s.foldersUnder id := by
  cases hids : s.foldersUnder id with
  | ok ids =>
    have hfree := not_cyclic_of_foldersUnder hids
    obtain ⟨found, hfound, hlisted⟩ :=
      (below_postOrder hs p id).1 s.folders id ⟨.all, hfree, hfree⟩
    obtain rfl := Except.ok.inj (hids.symm.trans hfound)
    exact (requestsUnder_eq_ok_iff hs).mpr hlisted
  | error fault =>
    obtain rfl := (below_error id).1 _ _ _ hids
    refine (requestsUnder_eq_error_iff hs).mpr ⟨rfl, ?_⟩
    by_contra hfree
    obtain ⟨ids, hfound, -⟩ := (below_postOrder hs p id).1 s.folders id ⟨.all, hfree, hfree⟩
    cases hids.symm.trans hfound

/-- The requests that a listing shows are those in the folders below. -/
theorem requestsUnder_eq (hs : s.Distinct) {ids : List String} (h : s.foldersUnder id = .ok ids) :
    s.requestsUnder p id = .ok (ids.flatMap (s.requestsIn p)) := by
  rw [requestsUnder_eq_foldersUnder hs, h]
  rfl

theorem foldersUnder_of_requestsUnder (hs : s.Distinct) {listed : List (Row (.request p))}
    (h : s.requestsUnder p id = .ok listed) : ∃ ids, s.foldersUnder id = .ok ids := by
  rw [requestsUnder_eq_foldersUnder hs] at h
  obtain ⟨ids, hids, -⟩ := map_eq_ok_iff.mp h
  exact ⟨ids, hids⟩

/-- Only stored requests are listed. -/
theorem mem_rows_of_requestsUnder (hs : s.Distinct) {listed : List (Row (.request p))}
    (h : s.requestsUnder p id = .ok listed) {r : Row (.request p)} (hr : r ∈ listed) :
    r ∈ s.rows (.request p) :=
  ((((requestsUnder_eq_ok_iff hs).mp h).mem_iff hs).mp hr).1

/-- Nothing lies in a folder that is not stored. -/
theorem Intact.postOrder_of_not_holds (hs : s.Intact) (h : s.holds ⟨.folder, id⟩ = false) :
    s.PostOrder p id [] := by
  have hrefers : ∀ {k : Kind} {row : Row k}, row ∈ s.rows k → (⟨.folder, id⟩ : Key) ∉ row.refs := by
    intro k row hrow href
    have hheld := hs.holds_ref hrow _ href
    rw [h] at hheld
    cases hheld
  have hchildren : childrenIn s.folders id = [] := by
    apply List.eq_nil_iff_forall_not_mem.mpr
    intro f hf
    obtain ⟨hmem, hlies⟩ := mem_childrenIn.mp hf
    exact hrefers (k := .folder) hmem (by simp [Row.refs, Columns.refs, hlies])
  have hown : s.requestsIn p id = [] := by
    apply List.eq_nil_iff_forall_not_mem.mpr
    intro r hr
    obtain ⟨hmem, hlies⟩ := mem_requestsIn.mp hr
    exact hrefers hmem (by simp [Row.refs, Columns.refs, hlies])
  have hempty : s.PostOrder p id ((childrenIn s.folders id).flatMap (fun _ => []) ++
      s.requestsIn p id) := .folder (by simp [hchildren])
  simpa [hchildren, hown] using hempty

end Store

namespace Catalog

/-- Wherever sessions get, the listing of a folder fails exactly if the folder lies in itself,
    over any number of folders, and then with this folder. Otherwise it is the post-order of what
    is below. In it each request stands once, and a request stands in it exactly if the way up
    from its folder comes to the folder that was asked about. The listing of a folder that is not
    stored is empty. -/
theorem Reached.lists_in_post_order {c : Catalog} (hc : c.Reached) (p : Protocol) (id : String) :
    (∀ fault, c.store.requestsUnder p id = .error fault ↔
      fault = .folderCycle id ∧ TransGen c.store.LiesIn id id) ∧
    (∀ listed, c.store.requestsUnder p id = .ok listed ↔ c.store.PostOrder p id listed) ∧
    (¬ TransGen c.store.LiesIn id id →
      ∃ listed, c.store.requestsUnder p id = .ok listed ∧ c.store.PostOrder p id listed ∧
        (listed.map Row.id).Nodup ∧
        ∀ r, r ∈ listed ↔ r ∈ c.store.rows (.request p) ∧ ∃ folderId,
          r.data.folderId = some folderId ∧ ReflTransGen c.store.LiesIn folderId id) ∧
    (c.store.holds ⟨.folder, id⟩ = false → c.store.requestsUnder p id = .ok []) := by
  have hs := hc.intact.distinct
  refine ⟨fun fault => Store.requestsUnder_eq_error_iff hs,
    fun listed => Store.requestsUnder_eq_ok_iff hs, ?_, ?_⟩
  · intro hfree
    obtain ⟨listed, hlisted, hpost⟩ := Store.exists_postOrder (p := p) hs hfree
    exact ⟨listed, hlisted, hpost, hpost.nodup hs, fun r => hpost.mem_iff hs⟩
  · intro hmissing
    exact (Store.requestsUnder_eq_ok_iff hs).mpr (hc.intact.postOrder_of_not_holds hmissing)

/-- A session that stores two folders inside a folder, with a request in each. The request of the
    outer folder is stored before those of the inner ones, and the one of the second inner folder
    before the one of the first. -/
def shelved : Catalog :=
  (runFrom {}
    [⟨none, .upsert .workspace ⟨.value "w", {}⟩ "window"⟩,
     ⟨none, .upsert .folder ⟨.value "a", { workspaceId := .value "w" }⟩ "window"⟩,
     ⟨none, .upsert .folder
        ⟨.value "b", { workspaceId := .value "w", folderId := .value "a" }⟩ "window"⟩,
     ⟨none, .upsert .folder
        ⟨.value "c", { workspaceId := .value "w", folderId := .value "a" }⟩ "window"⟩,
     ⟨none, .upsert (.request .http)
        ⟨.value "outer", { workspaceId := .value "w", folderId := .value "a", call := {} }⟩
        "window"⟩,
     ⟨none, .upsert (.request .http)
        ⟨.value "second", { workspaceId := .value "w", folderId := .value "c", call := {} }⟩
        "window"⟩,
     ⟨none, .upsert (.request .http)
        ⟨.value "first", { workspaceId := .value "w", folderId := .value "b", call := {} }⟩
        "window"⟩]).2

theorem shelved_reached : shelved.Reached :=
  .runFrom (.start rfl) _

/-- The listing goes through the inner folders in their order and comes to the outer one last.
    Where two folders lie inside each other, it names the one that was asked about. -/
theorem shelved_lists_in_post_order :
    (∃ listed, shelved.store.requestsUnder .http "a" = .ok listed ∧
      shelved.store.PostOrder .http "a" listed ∧
      listed.map Row.id = ["first", "second", "outer"]) ∧
    shelved.store.requestsUnder .http "d" = .ok [] ∧
    looped.store.requestsUnder .http "b" = .error (.folderCycle "b") ∧
    TransGen looped.store.LiesIn "b" "b" := by
  obtain ⟨-, hordered, -⟩ := shelved_reached.lists_in_post_order .http "a"
  obtain ⟨-, -, -, hmissing⟩ := shelved_reached.lists_in_post_order .http "d"
  obtain ⟨hfails, -⟩ := looped_reached.lists_in_post_order .http "b"
  refine ⟨?_, hmissing (by decide +kernel), ?_⟩
  · have hshown : ((shelved.store.requestsUnder .http "a").toOption.map (·.map Row.id)) =
        some ["first", "second", "outer"] := by decide +kernel
    cases hlisted : shelved.store.requestsUnder .http "a" with
    | ok listed =>
      rw [hlisted] at hshown
      exact ⟨listed, rfl, (hordered listed).mp hlisted, Option.some.inj hshown⟩
    | error fault =>
      rw [hlisted] at hshown
      cases hshown
  · have hfailed : (looped.store.requestsUnder .http "b").toOption.isNone = true := by
      decide +kernel
    cases hlisted : looped.store.requestsUnder .http "b" with
    | ok listed =>
      rw [hlisted] at hfailed
      cases hfailed
    | error fault =>
      obtain ⟨rfl, hcycle⟩ := (hfails fault).mp hlisted
      exact ⟨rfl, hcycle⟩

end Catalog

end RequestCatalog
