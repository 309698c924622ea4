import RequestCatalog.Proofs.Subtree

/-! # Listing a folder in post-order

  A listing shows the requests of each folder inside before those that lie directly in a
  folder. `Store.PostOrder` says so by recursion on the folders: the listings of the folders
  directly inside, in the order of the table, and then the requests of the folder itself. It
  has no pool, no start and no way to fail.

  * A post-order exists for no folder that lies in itself (`PostOrder.not_cyclic`), it is the
    only one (`PostOrder.unique`), and it shows each request once.
  * `below_postOrder`: where no loop is in the way, the walk down succeeds and lists the
    folders in post-order. The pool that it takes folders from is smaller at each step, and
    still holds all that lies below (`Covers`).
  * `not_cyclic_of_foldersUnder`: from a folder that lies in itself no walk succeeds.

  A folder lies in one other folder at most. So whoever comes to a folder twice on the way
  down has come back to the folder that the walk began with, and no other loop can be met.
-/

namespace RequestCatalog

open Relation

namespace Store

variable {s : Store} {p : Protocol} {id : String}

/-! ### Post-order -/

/-- These are the requests in a folder and below it in post-order: those of each folder that
    lies directly in it, in the order of the table, and then its own. -/
inductive PostOrder (s : Store) (p : Protocol) : String → List (Row (.request p)) → Prop where
  | folder {id : String} {inner : Row .folder → List (Row (.request p))}
      (hinner : ∀ f ∈ childrenIn s.folders id, PostOrder s p f.id (inner f)) :
      PostOrder s p id ((childrenIn s.folders id).flatMap inner ++ s.requestsIn p id)

theorem mem_childrenIn {pool : List (Row .folder)} {f : Row .folder} :
    f ∈ childrenIn pool id ↔ f ∈ pool ∧ f.data.folderId = some id := by
  simp [childrenIn]

theorem mem_othersIn {pool : List (Row .folder)} {f : Row .folder} :
    f ∈ othersIn pool id ↔ f ∈ pool ∧ f.data.folderId ≠ some id := by
  simp [othersIn]

/-- The folders directly in a folder are those that lie in it. -/
theorem liesIn_of_mem_childrenIn (hs : s.Distinct) {f : Row .folder}
    (hf : f ∈ childrenIn s.folders id) : s.LiesIn f.id id := by
  obtain ⟨hmem, hlies⟩ := mem_childrenIn.mp hf
  exact ⟨f, hs.get?_of_mem hmem, hlies⟩

/-- A folder that lies in another one is among those directly in it. -/
theorem exists_childrenIn {other : String} (h : s.LiesIn other id) :
    ∃ f ∈ childrenIn s.folders id, f.id = other := by
  obtain ⟨f, hget, hlies⟩ := h
  exact ⟨f, mem_childrenIn.mpr ⟨mem_of_get? hget, hlies⟩, id_of_get? hget⟩

theorem mem_requestsIn {r : Row (.request p)} :
    r ∈ s.requestsIn p id ↔ r ∈ s.rows (.request p) ∧ r.data.folderId = some id := by
  simp [requestsIn]

/-- A folder inside one that does not lie in itself does not lie in itself either. -/
theorem not_cyclic_of_liesIn {other : String} (hlies : s.LiesIn other id)
    (hfree : ¬ TransGen s.LiesIn id id) : ¬ TransGen s.LiesIn other other := by
  intro hcycle
  -- the way round passes through the one folder that it lies in
  obtain ⟨next, hnext, hback⟩ := TransGen.head'_iff.mp hcycle
  obtain rfl := hnext.unique hlies
  exact hfree (.tail' hback hlies)

/-- Nothing lies below two folders that lie side by side. -/
theorem not_below_siblings (hs : s.Distinct) (hfree : ¬ TransGen s.LiesIn id id)
    {f g : Row .folder} (hf : f ∈ childrenIn s.folders id) (hg : g ∈ childrenIn s.folders id)
    (hne : f ≠ g) {below : String} (hway : ReflTransGen s.LiesIn below f.id)
    (hway' : ReflTransGen s.LiesIn below g.id) : False := by
  -- neither of the two is above the other: the way up from it leads through `id`, and away
  have haway : ∀ {a b : Row .folder}, a ∈ childrenIn s.folders id → b ∈ childrenIn s.folders id →
      a ≠ b → ¬ ReflTransGen s.LiesIn a.id b.id := by
    intro a b ha hb hab hup
    have hla := liesIn_of_mem_childrenIn hs ha
    have hlb := liesIn_of_mem_childrenIn hs hb
    rcases hup.cases_head with heq | ⟨next, hnext, hrest⟩
    · exact hab (hs.eq_of_id (mem_childrenIn.mp ha).1 (mem_childrenIn.mp hb).1 heq)
    · obtain rfl := hnext.unique hla
      exact hfree (.tail' hrest hlb)
  have hunique : Relator.RightUnique s.LiesIn := fun _ _ _ ha hb => ha.unique hb
  rcases ReflTransGen.total_of_right_unique hunique hway hway' with hup | hup
  · exact haway hf hg hne hup
  · exact haway hg hf hne.symm hup

namespace PostOrder

variable {listed other : List (Row (.request p))}

/-- There is one post-order only. -/
theorem unique (h : s.PostOrder p id listed) (h' : s.PostOrder p id other) : listed = other := by
  induction h generalizing other with
  | folder _ ih =>
    cases h' with
    | folder hinner =>
      congr 1
      apply List.flatMap_congr
      intro f hf
      exact ih f hf (hinner f hf)

/-- A folder that lies in itself has no post-order. -/
theorem not_cyclic (h : s.PostOrder p id listed) : ¬ TransGen s.LiesIn id id := by
  induction h with
  | @folder id inner _ ih =>
    intro hcycle
    -- the last folder on the way round lies directly in this one, and goes round as well
    obtain ⟨last, hway, hlies⟩ := TransGen.tail'_iff.mp hcycle
    obtain ⟨f, hf, rfl⟩ := exists_childrenIn hlies
    exact ih f hf (.head' hlies hway)

/-- A request is shown if the way up from its folder comes to the folder. -/
theorem mem_iff (hs : s.Distinct) (h : s.PostOrder p id listed) {r : Row (.request p)} :
    r ∈ listed ↔ r ∈ s.rows (.request p) ∧
      ∃ folderId, r.data.folderId = some folderId ∧ ReflTransGen s.LiesIn folderId id := by
  induction h with
  | @folder id inner _ ih =>
    rw [List.mem_append, List.mem_flatMap, mem_requestsIn]
    constructor
    · rintro (⟨f, hf, hr⟩ | ⟨hr, hlies⟩)
      · obtain ⟨hmem, folderId, hfolder, hway⟩ := (ih f hf).mp hr
        exact ⟨hmem, folderId, hfolder, hway.tail (liesIn_of_mem_childrenIn hs hf)⟩
      · exact ⟨hr, id, hlies, .refl⟩
    · rintro ⟨hr, folderId, hfolder, hway⟩
      rcases hway.cases_tail with rfl | ⟨last, hway, hlies⟩
      · exact .inr ⟨hr, hfolder⟩
      · obtain ⟨f, hf, rfl⟩ := exists_childrenIn hlies
        exact .inl ⟨f, hf, (ih f hf).mpr ⟨hr, folderId, hfolder, hway⟩⟩

/-- Below two folders that lie side by side there is no request in common. -/
theorem disjoint_siblings (hs : s.Distinct) (hfree : ¬ TransGen s.LiesIn id id)
    {f g : Row .folder} (hf : f ∈ childrenIn s.folders id) (hg : g ∈ childrenIn s.folders id)
    (hne : f ≠ g) (h : s.PostOrder p f.id listed) (h' : s.PostOrder p g.id other) :
    List.Disjoint listed other := by
  intro r hr hr'
  obtain ⟨-, folderId, hfolder, hway⟩ := (h.mem_iff hs).mp hr
  obtain ⟨-, folderId', hfolder', hway'⟩ := (h'.mem_iff hs).mp hr'
  obtain rfl : folderId = folderId' := Option.some.inj (hfolder.symm.trans hfolder')
  exact not_below_siblings hs hfree hf hg hne hway hway'

/-- Each request is shown once. -/
theorem nodup (hs : s.Distinct) (h : s.PostOrder p id listed) : (listed.map Row.id).Nodup := by
  have hrows : ∀ k, (s.rows k).Nodup := fun k => (hs k).of_map _
  have hlisted : listed.Nodup := by
    induction h with
    | @folder id inner hinner ih =>
      have hfree := (PostOrder.folder hinner).not_cyclic
      rw [List.nodup_append', List.nodup_flatMap]
      refine ⟨⟨ih, ?_⟩, (hrows _).filter _, ?_⟩
      · have hchildren : (childrenIn s.folders id).Nodup := (hrows .folder).filter _
        refine hchildren.pairwise_of_forall_ne fun f hf g hg hne => ?_
        exact disjoint_siblings hs hfree hf hg hne (hinner f hf) (hinner g hg)
      · -- the requests of the folder itself lie in none of those inside
        intro r hr hown
        obtain ⟨f, hf, hr⟩ := List.mem_flatMap.mp hr
        obtain ⟨-, folderId, hfolder, hway⟩ := ((hinner f hf).mem_iff hs).mp hr
        obtain rfl : folderId = id := Option.some.inj
            (hfolder.symm.trans (mem_requestsIn.mp hown).2)
        exact hfree (.tail' hway (liesIn_of_mem_childrenIn hs hf))
  refine hlisted.map_on fun a ha b hb => ?_
  exact hs.eq_of_id ((h.mem_iff hs).mp ha).1 ((h.mem_iff hs).mp hb).1

end PostOrder

/-! ### The walk down -/

/-- The pool holds all folders below the folder, in the order of the table. -/
def Covers (s : Store) (pool : List (Row .folder)) (id : String) : Prop :=
  ∃ kept : Row .folder → Bool, pool = s.folders.filter kept ∧
    ∀ f ∈ s.folders, TransGen s.LiesIn f.id id → kept f = true

namespace Covers

variable {pool : List (Row .folder)}

theorem all : s.Covers s.folders id :=
  ⟨fun _ => true, by simp, fun _ _ _ => rfl⟩

/-- A pool that holds all that lies below has all folders directly inside. -/
theorem childrenIn_eq (hs : s.Distinct) (h : s.Covers pool id) :
    childrenIn pool id = childrenIn s.folders id := by
  obtain ⟨kept, rfl, hkept⟩ := h
  unfold childrenIn
  rw [List.filter_filter]
  apply List.filter_congr
  intro f hf
  by_cases hlies : f.data.folderId = some id
  · simp [hlies, hkept f hf (.single ⟨f, hs.get?_of_mem hf, hlies⟩)]
  · simp [hlies]

/-- Without the folders directly inside, the pool still holds all that lies below one of them. -/
theorem child (hs : s.Distinct) (h : s.Covers pool id) (hfree : ¬ TransGen s.LiesIn id id)
    {f : Row .folder} (hf : f ∈ childrenIn s.folders id) : s.Covers (othersIn pool id) f.id := by
  have hlies := liesIn_of_mem_childrenIn hs hf
  obtain ⟨kept, rfl, hkept⟩ := h
  refine ⟨fun g => kept g && g.data.folderId != some id, ?_, ?_⟩
  · unfold othersIn
    rw [List.filter_filter]
    apply List.filter_congr
    intro g _
    rw [Bool.and_comm]
  · intro g hg hbelow
    -- a folder directly inside is not below its sibling
    have hother : g.data.folderId ≠ some id := by
      intro hin
      obtain ⟨next, ⟨found, hfound, hnext⟩, hrest⟩ := TransGen.head'_iff.mp hbelow
      obtain rfl : g = found := Option.some.inj ((hs.get?_of_mem hg).symm.trans hfound)
      obtain rfl : id = next := Option.some.inj (hin.symm.trans hnext)
      exact hfree (.tail' hrest hlies)
    simp [hkept g hg (hbelow.tail hlies), hother]

end Covers

/-- A walk down that may begin at a folder: nothing below the folder is the start, and the folder
    does not lie in itself. -/
def Passable (s : Store) (start : String) (pool : List (Row .folder)) (id : String) : Prop :=
  s.Covers pool id ∧ ¬ TransGen s.LiesIn start id ∧ ¬ TransGen s.LiesIn id id

/-- Where a walk may go, it may go on to each folder directly inside, and none is the start. -/
theorem Passable.child (hs : s.Distinct) {start : String} {pool : List (Row .folder)}
    (h : s.Passable start pool id) {f : Row .folder} (hf : f ∈ childrenIn s.folders id) :
    f.id ≠ start ∧ s.Passable start (othersIn pool id) f.id := by
  obtain ⟨hcovers, hstart, hfree⟩ := h
  have hlies := liesIn_of_mem_childrenIn hs hf
  refine ⟨?_, hcovers.child hs hfree hf, ?_, not_cyclic_of_liesIn hlies hfree⟩
  · rintro rfl
    exact hstart (.single hlies)
  · intro hbelow
    exact hstart (hbelow.tail hlies)

/-- Where no loop is in the way, the walk down succeeds and lists the folders in post-order. -/
theorem below_postOrder (hs : s.Distinct) (p : Protocol) (start : String) :
    (∀ pool id, s.Passable start pool id →
      ∃ ids, below start pool id = .ok ids ∧ s.PostOrder p id (ids.flatMap (s.requestsIn p))) ∧
    ∀ pool fs, (∀ f ∈ fs, f.id ≠ start ∧ s.Passable start pool f.id) →
      ∃ ids, belowAll start pool fs = .ok ids ∧ ∃ inner : Row .folder → List (Row (.request p)),
        (∀ f ∈ fs, s.PostOrder p f.id (inner f)) ∧
          ids.flatMap (s.requestsIn p) = fs.flatMap inner := by
  apply below.mutual_induct start
  case case1 =>
    intro pool id ih hpass
    rw [hpass.1.childrenIn_eq hs] at ih
    obtain ⟨ids, hids, inner, hinner, hlisted⟩ := ih fun f hf => hpass.child hs hf
    refine ⟨ids ++ [id], ?_, ?_⟩
    · rw [below, hpass.1.childrenIn_eq hs, hids]
      rfl
    · rw [List.flatMap_append, List.flatMap_singleton, hlisted]
      exact .folder hinner
  case case2 =>
    intro pool _
    exact ⟨[], by rw [belowAll], fun _ => [], by simp, rfl⟩
  case case3 =>
    intro pool f rest hstart hall
    exact absurd hstart (hall f List.mem_cons_self).1
  case case4 =>
    intro pool f rest hstart ihfirst ihrest hall
    obtain ⟨first, hfirst, hlisted⟩ := ihfirst (hall f List.mem_cons_self).2
    obtain ⟨others, hothers, inner, hinner, heq⟩ :=
      ihrest fun g hg => hall g (List.mem_cons_of_mem f hg)
    refine ⟨first ++ others, ?_, ?_⟩
    · rw [belowAll, if_neg hstart, hfirst, hothers]
      rfl
    · -- one function for all of them: should the folder come again, its listing is the same
      let inner' (g : Row .folder) : List (Row (.request p)) :=
        if g.id = f.id then first.flatMap (s.requestsIn p) else inner g
      have hsame : ∀ g ∈ rest, inner' g = inner g := by
        intro g hg
        by_cases hid : g.id = f.id
        · have hrepeated := hinner g hg
          rw [hid] at hrepeated
          simpa [inner', hid] using hlisted.unique hrepeated
        · simp [inner', hid]
      refine ⟨inner', ?_, ?_⟩
      · intro g hg
        rcases List.mem_cons.mp hg with rfl | hmem
        · simpa [inner'] using hlisted
        · rw [hsame g hmem]
          exact hinner g hmem
      · rw [List.flatMap_append, List.flatMap_cons, heq, List.flatMap_congr hsame]
        simp [inner']

/-- A walk down never comes back to its start if it succeeds. -/
theorem start_not_mem_of_ok (start : String) :
    (∀ pool id, id ≠ start → ∀ ids, below start pool id = .ok ids → start ∉ ids) ∧
      ∀ pool fs, ∀ ids, belowAll start pool fs = .ok ids → start ∉ ids := by
  apply below.mutual_induct start
  case case1 =>
    intro pool id ih hne ids h
    rw [below] at h
    obtain ⟨rest, hrest, rfl⟩ := map_eq_ok_iff.mp h
    simpa [hne.symm] using ih rest hrest
  case case2 =>
    intro pool ids h
    rw [belowAll] at h
    obtain rfl : [] = ids := pure_eq_ok_iff.mp h
    simp
  case case3 =>
    intro pool f rest hstart ids h
    rw [belowAll, if_pos hstart] at h
    cases h
  case case4 =>
    intro pool f rest hstart ihfirst ihrest ids h
    rw [belowAll, if_neg hstart] at h
    obtain ⟨first, hfirst, h⟩ := bind_eq_ok_iff.mp h
    obtain ⟨others, hothers, h⟩ := bind_eq_ok_iff.mp h
    obtain rfl := pure_eq_ok_iff.mp h
    simpa using ⟨ihfirst hstart first hfirst, ihrest others hothers⟩

/-- From a folder that lies in itself no walk down succeeds. -/
theorem not_cyclic_of_foldersUnder {ids : List String} (h : s.foldersUnder id = .ok ids) :
    ¬ TransGen s.LiesIn id id := by
  unfold foldersUnder at h
  rw [below] at h
  obtain ⟨rest, hrest, rfl⟩ := map_eq_ok_iff.mp h
  have hfound := (foundBelow_of_ok id).2 _ _ rest hrest
  have hstart := (start_not_mem_of_ok id).2 _ _ rest hrest
  have htop : ∀ other, s.LiesIn other id → other ∈ rest := by
    intro other hlies
    obtain ⟨f, hf, rfl⟩ := exists_childrenIn hlies
    exact hfound.top f.id (List.mem_map_of_mem hf)
  -- all that lies below was found before the folder itself
  have hbelow : ∀ other, TransGen s.LiesIn other id → other ∈ rest := by
    intro other hway
    induction hway using TransGen.head_induction_on with
    | single hlies => exact htop _ hlies
    | @head other next hlies _ ih =>
      by_cases hnext : next = id
      · rw [hnext] at hlies
        exact htop other hlies
      · obtain ⟨f, hget, hparent⟩ := hlies
        have hother : f ∈ othersIn s.folders id := by
          rw [mem_othersIn, hparent]
          exact ⟨mem_of_get? hget, by simpa using hnext⟩
        rw [← id_of_get? hget]
        exact hfound.closed f hother next ih hparent
  exact fun hcycle => hstart (hbelow id hcycle)

end Store

end RequestCatalog
