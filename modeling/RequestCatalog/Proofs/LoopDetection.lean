import RequestCatalog.Proofs.Ancestry

/-! # Looking for a loop before it is closed

  Before a folder is moved, `wouldLoop` asks whether it may lie in its new parent. The
  question is put to the store as it is, where the folder still lies elsewhere or is not
  there at all. The answer is about the store after the move: it is yes exactly if the
  chain of the moved folder fails there.

  The two walks meet at the climb that starts above the folder and has met it. Such a climb
  never looks the folder up, so the move changes nothing for it (`climb_put`), and what it
  comes to is said by the tables before the move (`climb_cycle_iff_closes`). Nothing is
  assumed about the tables: they may hold loops, and folders that lie in no stored folder.
-/

namespace RequestCatalog

namespace Store

open Relation

variable {s : Store} {f : Row .folder}

/-! ### The climb and the move -/

/-- A climb that has met the folder is the same before and after the folder is written. -/
theorem climb_put {met : List String} {parent : Option String} (hmet : f.id ∈ met) :
    (s.put f).climb met parent = s.climb met parent := by
  apply climb_congr
  intro start id _ _ hnew
  have hid : id ≠ f.id := fun h => hnew (h ▸ hmet)
  exact get?_folder_put_ne hid

/-- Writing the folder does not change where it may be put. -/
theorem wouldLoop_put {parent : Option String} :
    (s.put f).wouldLoop f.id parent = s.wouldLoop f.id parent := by
  rw [Bool.eq_iff_iff, wouldLoop_iff_climb, wouldLoop_iff_climb,
    climb_put (List.mem_singleton_self _)]

/-! ### What the climb comes to -/

/-- A climb that comes to a folder it has met fails with a loop. -/
theorem climb_cycle_of_reaches {met : List String} {start target : String}
    (hmet : target ∈ met) (hreach : ReflTransGen s.LiesIn start target) :
    ∃ last, s.climb met (some start) = .error (.folderCycle last) := by
  -- from the folder where the climb starts: each step leads nearer to the target, and what was
  -- met stays met
  induction hreach using ReflTransGen.head_induction_on generalizing met with
  | refl => exact ⟨target, climb_of_met (List.contains_iff_mem.mpr hmet)⟩
  | @head start next hlies _ ih =>
    cases hseen : met.contains start with
    | true => exact ⟨start, climb_of_met hseen⟩
    | false =>
      obtain ⟨g, hget, hparent⟩ := hlies
      obtain ⟨last, hrest⟩ := ih (List.mem_cons_of_mem start hmet)
      refine ⟨last, ?_⟩
      rw [climb_of_get? hseen hget, hparent, map_eq_error_iff]
      exact hrest

/-- A climb from a folder that loops fails with a loop, whatever it has met. -/
theorem climb_cycle_of_loops {met : List String} {start : String} (hloops : s.Loops start) :
    ∃ last, s.climb met (some start) = .error (.folderCycle last) := by
  generalize hstart : some start = parent
  induction met, parent using climb.induct s generalizing start with
  | case1 met => cases hstart
  | case2 met id hmet => exact ⟨id, climb_of_met hmet⟩
  | case3 met id hmet hget =>
    -- a folder that is not stored lies in no other
    cases hstart
    obtain ⟨_, ⟨g, hg, _⟩, _⟩ := hloops.exists_parent
    rw [hget] at hg
    cases hg
  | case4 met id hmet g hget ih =>
    cases hstart
    obtain ⟨next, ⟨found, hfound, hnext⟩, hrest⟩ := hloops.exists_parent
    obtain rfl : g = found := Option.some.inj (hget.symm.trans hfound)
    obtain ⟨last, hlast⟩ := ih hrest hnext.symm
    refine ⟨last, ?_⟩
    rw [climb_of_get? hmet hget, map_eq_error_iff]
    exact hlast

/-- The folder may not lie in this parent: they are the same, or the parent lies in the folder,
    directly or not, or the way up from the parent loops already. -/
def Closes (s : Store) (id parent : String) : Prop :=
  parent = id ∨ TransGen s.LiesIn parent id ∨ s.Loops parent

/-- A climb from the parent that has met the folder fails with a loop exactly if the folder may
    not lie there. -/
theorem climb_cycle_iff_closes {id parent : String} :
    (∃ last, s.climb [id] (some parent) = .error (.folderCycle last)) ↔ s.Closes id parent := by
  constructor
  · rintro ⟨last, hclimb⟩
    obtain ⟨start, found, hstart, hreach, ⟨-, hmem | hcycle⟩ | ⟨hfault, -⟩⟩ := climb_error hclimb
    · obtain rfl := Option.some.inj hstart
      obtain rfl : found = id := by simpa using hmem
      rcases reflTransGen_iff_eq_or_transGen.mp hreach with hsame | hinside
      · exact .inl hsame.symm
      · exact .inr (.inl hinside)
    · obtain rfl := Option.some.inj hstart
      exact .inr (.inr ⟨found, hreach, hcycle⟩)
    · cases hfault
  · rintro (rfl | hinside | hloops)
    · exact climb_cycle_of_reaches (List.mem_singleton_self _) .refl
    · exact climb_cycle_of_reaches (List.mem_singleton_self _) hinside.to_reflTransGen
    · exact climb_cycle_of_loops hloops

/-- Nothing is closed by a parent that is not stored, unless it is the folder itself. -/
theorem not_closes_of_not_holds {id parent : String} (hmissing : s.holds ⟨.folder, parent⟩ = false)
    (hother : parent ≠ id) : ¬ s.Closes id parent := by
  have hleaves : ∀ next, ¬ s.LiesIn parent next := by
    rintro next ⟨g, hget, _⟩
    rw [get?_eq_none_iff.mpr hmissing] at hget
    cases hget
  rintro (hsame | hinside | hloops)
  · exact hother hsame
  · obtain ⟨next, hlies, _⟩ := TransGen.head'_iff.mp hinside
    exact hleaves next hlies
  · obtain ⟨next, hlies, _⟩ := hloops.exists_parent
    exact hleaves next hlies

/-! ### The question and the move -/

/-- Looking for a loop is exact, in every store and for every folder and parent. The answer is
    yes exactly if the folder may not lie there by the tables as they are, and exactly if its
    chain fails with a loop once it is written with this parent, whatever else is written in
    it. Where the parent is not stored and is not the folder itself, the answer is no. -/
theorem wouldLoop_exact (s : Store) (id parent : String) :
    (s.wouldLoop id (some parent) = true ↔ s.Closes id parent) ∧
    (∀ f : Row .folder, f.id = id → f.data.folderId = some parent →
      (s.wouldLoop id (some parent) = true ↔
        ∃ last, (s.put f).chain f.node = .error (.folderCycle last))) ∧
    (s.holds ⟨.folder, parent⟩ = false → parent ≠ id →
      s.wouldLoop id (some parent) = false) := by
  have hcloses : s.wouldLoop id (some parent) = true ↔ s.Closes id parent :=
    wouldLoop_iff_climb.trans climb_cycle_iff_closes
  refine ⟨hcloses, ?_, ?_⟩
  · rintro f rfl hlies
    rw [wouldLoop_iff_climb]
    refine exists_congr fun last => ?_
    rw [chain_eq_cycle_iff, climb_put (List.mem_singleton_self _), hlies]
  · intro hmissing hother
    have hopen := not_closes_of_not_holds hmissing hother
    rw [← hcloses] at hopen
    simpa using hopen

/-- A folder that lies in `b`. -/
def insideB : Row .folder :=
  ⟨"c", { workspaceId := "w", folderId := some "b", name := "", sortPriority := 0,
          settings := .none }, ⟨0⟩, ⟨0⟩⟩

/-- In the session where `a` and `b` lie inside each other, a folder that is not stored yet may
    not be put into `b`, and its chain would fail. Into a folder that does not exist it may. -/
theorem wouldLoop_exact_in_session :
    Catalog.looped.store.wouldLoop "c" (some "b") = true ∧
    Catalog.looped.store.Closes "c" "b" ∧
    (∃ last, (Catalog.looped.store.put insideB).chain insideB.node =
      .error (.folderCycle last)) ∧
    Catalog.looped.store.wouldLoop "a" (some "elsewhere") = false := by
  have hloop : Catalog.looped.store.wouldLoop "c" (some "b") = true := by decide +kernel
  have hmissing : Catalog.looped.store.holds ⟨.folder, "elsewhere"⟩ = false := by decide +kernel
  obtain ⟨hcloses, hmoved, _⟩ := wouldLoop_exact Catalog.looped.store "c" "b"
  refine ⟨hloop, hcloses.mp hloop, (hmoved insideB rfl rfl).mp hloop, ?_⟩
  exact (wouldLoop_exact Catalog.looped.store "a" "elsewhere").2.2 hmissing (by decide)

end Store

end RequestCatalog
