import Mathlib.Logic.Relation
import RequestCatalog.Inheritance
import RequestCatalog.Proofs.Tables
import RequestCatalog.Proofs.Writing

/-! # The way up the folders

  `climb` remembers what it met and gives up when a folder comes again. Two
  relations say what it decides without a memory:

  * `WayUp` lists the folders above a place, up to one that lies in no other.
  * `Loops` says that the way up from a folder comes to a folder that lies, over
    any number of folders, in itself.

  A climb that succeeds lists the way up, and a climb from a stored folder meets a
  loop exactly if there is one. The walk that only asks for a loop stops at other
  places than a climb does, and still comes to the same (`wouldLoop_iff_climb`).
-/

namespace RequestCatalog

namespace Store

open Relation

variable {s t : Store}

/-! ### Ways and loops -/

/-- The folder lies directly in the other one. -/
def LiesIn (s : Store) (id parent : String) : Prop :=
  ∃ f, s.get? .folder id = some f ∧ f.data.folderId = some parent

/-- The folders above a place, the nearest first. The place lies in the folder `parent`,
    and the last folder lies in no other. -/
inductive WayUp (s : Store) : (parent : Option String) → List (Row .folder) → Prop where
  | root : WayUp s none []
  | step {id : String} {f : Row .folder} {above : List (Row .folder)}
      (hget : s.get? .folder id = some f) (habove : WayUp s f.data.folderId above) :
      WayUp s (some id) (f :: above)

/-- The way up from the folder comes to a folder that lies in itself. -/
def Loops (s : Store) (id : String) : Prop :=
  ∃ g, ReflTransGen s.LiesIn id g ∧ TransGen s.LiesIn g g

theorem LiesIn.unique {id a b : String} (ha : s.LiesIn id a) (hb : s.LiesIn id b) : a = b := by
  obtain ⟨f, hf, ha⟩ := ha
  obtain ⟨g, hg, hb⟩ := hb
  obtain rfl : f = g := Option.some.inj (hf.symm.trans hg)
  exact Option.some.inj (ha.symm.trans hb)

/-- There is one way up only. -/
theorem WayUp.unique {parent : Option String} {a b : List (Row .folder)}
    (ha : s.WayUp parent a) (hb : s.WayUp parent b) : a = b := by
  induction ha generalizing b with
  | root =>
    cases hb
    rfl
  | step hget _ ih =>
    cases hb with
    | step hget' hb =>
      obtain rfl := Option.some.inj (hget.symm.trans hget')
      rw [ih hb]

/-- Who lies in a folder with a way up has one. -/
theorem WayUp.along {id other : String} (h : ReflTransGen s.LiesIn id other)
    {above : List (Row .folder)} (hway : s.WayUp (some id) above) :
    ∃ rest, s.WayUp (some other) rest := by
  -- along the folders: each of them takes the first folder off the way
  induction h with
  | refl => exact ⟨above, hway⟩
  | tail _ hlies ih =>
    obtain ⟨rest, hrest⟩ := ih
    obtain ⟨f, hf, hparent⟩ := hlies
    cases hrest with
    | step hget hup =>
      obtain rfl := Option.some.inj (hf.symm.trans hget)
      rw [hparent] at hup
      exact ⟨_, hup⟩

/-- The folder above a folder whose way up loops. -/
theorem Loops.exists_parent {id : String} (h : s.Loops id) :
    ∃ parent, s.LiesIn id parent ∧ s.Loops parent := by
  obtain ⟨g, hreach, hcycle⟩ := h
  rcases hreach.cases_head with rfl | ⟨parent, hlies, hrest⟩
  · obtain ⟨parent, hlies, hback⟩ := TransGen.head'_iff.mp hcycle
    exact ⟨parent, hlies, id, hback, hcycle⟩
  · exact ⟨parent, hlies, g, hrest, hcycle⟩

theorem Loops.along {id other : String} (hreach : ReflTransGen s.LiesIn id other)
    (h : s.Loops id) : s.Loops other := by
  induction hreach with
  | refl => exact h
  | tail _ hlies ih =>
    obtain ⟨parent, hparent, hloops⟩ := ih.exists_parent
    rwa [hlies.unique hparent]

/-- A way up that ends does not loop. -/
theorem WayUp.not_loops {id : String} {above : List (Row .folder)}
    (h : s.WayUp (some id) above) : ¬ s.Loops id := by
  -- by induction on the way: a loop above a folder is a loop above the next one, and at the top
  -- there is no next one
  generalize hparent : some id = parent at h
  induction h generalizing id with
  | root => cases hparent
  | step hget _ ih =>
    cases hparent
    intro hloops
    obtain ⟨next, ⟨f, hf, hnext⟩, hrest⟩ := hloops.exists_parent
    obtain rfl := Option.some.inj (hf.symm.trans hget)
    exact ih hnext.symm hrest

/-! ### What a climb decides -/

theorem climb_of_met {met : List String} {id : String} (h : met.contains id = true) :
    s.climb met (some id) = .error (.folderCycle id) := by
  rw [climb]
  split
  · rfl
  · next hmet => rw [h] at hmet; cases hmet

theorem climb_of_missing {met : List String} {id : String} (h : met.contains id = false)
    (hget : s.get? .folder id = none) :
    s.climb met (some id) = .error (.notFound .folder (.text id)) := by
  rw [climb]
  split
  · next hmet => rw [h] at hmet; cases hmet
  · split
    · rfl
    · next hfound => rw [hget] at hfound; cases hfound

theorem climb_of_get? {met : List String} {id : String} {f : Row .folder}
    (h : met.contains id = false) (hget : s.get? .folder id = some f) :
    s.climb met (some id) = (f :: ·) <$> s.climb (id :: met) f.data.folderId := by
  rw [climb]
  split
  · next hmet => rw [h] at hmet; cases hmet
  · split
    · next hfound => rw [hget] at hfound; cases hfound
    · next found hfound =>
      obtain rfl := Option.some.inj (hfound.symm.trans hget)
      rfl

/-- A climb that succeeds lists the way up, also in a store that differs only in folders that
    were met before. -/
theorem wayUp_of_climb {met : List String} {parent : Option String} {above : List (Row .folder)}
    (h : s.climb met parent = .ok above)
    (hsame : ∀ id, id ∉ met → t.get? .folder id = s.get? .folder id) : t.WayUp parent above := by
  induction met, parent using climb.induct s generalizing above with
  | case1 met =>
    rw [climb] at h
    cases h
    exact .root
  | case2 met id hmet =>
    rw [climb_of_met hmet] at h
    cases h
  | case3 met id hmet hget =>
    rw [climb_of_missing hmet hget] at h
    cases h
  | case4 met id hmet f hget ih =>
    rw [climb_of_get? hmet hget] at h
    obtain ⟨rest, hrest, rfl⟩ := map_eq_ok_iff.mp h
    -- a folder that was not met is the same in both stores
    have hnew : id ∉ met := fun hmem => by
      rw [List.contains_iff_mem.mpr hmem] at hmet
      cases hmet
    refine .step ((hsame id hnew).trans hget) (ih hrest fun other hother => ?_)
    exact hsame other fun hmem => hother (List.mem_cons_of_mem _ hmem)

/-- A climb that fails came to a folder that it had met or that lies in itself, or to one that
    does not exist. -/
theorem climb_error {met : List String} {parent : Option String} {e : Fault}
    (h : s.climb met parent = .error e) :
    ∃ start id, parent = some start ∧ ReflTransGen s.LiesIn start id ∧
      ((e = .folderCycle id ∧ (id ∈ met ∨ TransGen s.LiesIn id id)) ∨
        (e = .notFound .folder (.text id) ∧ s.get? .folder id = none)) := by
  induction met, parent using climb.induct s with
  | case1 met =>
    rw [climb] at h
    cases h
  | case2 met id hmet =>
    rw [climb_of_met hmet] at h
    cases h
    exact ⟨id, id, rfl, .refl, .inl ⟨rfl, .inl (List.contains_iff_mem.mp hmet)⟩⟩
  | case3 met id hmet hget =>
    rw [climb_of_missing hmet hget] at h
    cases h
    exact ⟨id, id, rfl, .refl, .inr ⟨rfl, hget⟩⟩
  | case4 met id hmet f hget ih =>
    rw [climb_of_get? hmet hget] at h
    -- the rest of the climb failed; it met one folder more
    obtain ⟨start, last, hparent, hreach, hwhy⟩ := ih (map_eq_error_iff.mp h)
    have hlies : s.LiesIn id start := ⟨f, hget, hparent⟩
    refine ⟨id, last, rfl, .head hlies hreach, ?_⟩
    rcases hwhy with ⟨rfl, hmem | hcycle⟩ | hmissing
    · rcases List.mem_cons.mp hmem with rfl | hmem
      · -- the walk is back at the folder of this very step
        exact .inl ⟨rfl, .inr (.head' hlies hreach)⟩
      · exact .inl ⟨rfl, .inl hmem⟩
    · exact .inl ⟨rfl, .inr hcycle⟩
    · exact .inr hmissing

/-- Where a way up exists, a climb fails only by meeting a folder twice. -/
theorem climb_error_of_wayUp {met : List String} {parent : Option String}
    {above : List (Row .folder)} (hway : s.WayUp parent above) {e : Fault}
    (h : s.climb met parent = .error e) :
    ∃ start id, parent = some start ∧ ReflTransGen s.LiesIn start id ∧
      e = .folderCycle id ∧ id ∈ met := by
  obtain ⟨start, id, rfl, hreach, hwhy⟩ := climb_error h
  obtain ⟨rest, hrest⟩ := hway.along hreach
  rcases hwhy with ⟨rfl, hmem | hcycle⟩ | ⟨rfl, hmissing⟩
  · exact ⟨start, id, rfl, hreach, rfl, hmem⟩
  -- a folder on the way neither lies in itself nor is missing
  · exact absurd ⟨id, .refl, hcycle⟩ hrest.not_loops
  · cases hrest with
    | step hget _ => rw [hmissing] at hget; cases hget

/-- The walk for an answer says what a climb meets that has met the target before. -/
theorem comesBack_iff_climb {target : String} {met : List String} {parent : Option String}
    (hparent : parent ≠ some target) :
    s.comesBack target met parent = true ↔
      ∃ id, s.climb (met ++ [target]) parent = .error (.folderCycle id) := by
  induction met, parent using comesBack.induct s with
  | case1 met =>
    rw [comesBack, climb]
    exact iff_of_false (by simp) (by rintro ⟨id, h⟩; cases h)
  | case2 met id hmet =>
    have hseen : (met ++ [target]).contains id = true :=
      List.contains_iff_mem.mpr (List.mem_append_left _ (List.contains_iff_mem.mp hmet))
    refine iff_of_true ?_ ⟨id, climb_of_met hseen⟩
    rw [comesBack]
    split
    · rfl
    · next hnew => rw [hmet] at hnew; cases hnew
  | case3 met id hmet hget =>
    have hne : id ≠ target := fun h => hparent (congrArg some h)
    have hnew : (met ++ [target]).contains id = false := by simpa [hne] using hmet
    rw [climb_of_missing hnew hget]
    refine iff_of_false ?_ (by rintro ⟨last, h⟩; cases h)
    rw [comesBack]
    split
    · next hseen => rw [hmet] at hseen; cases hseen
    · split
      · simp
      · next hfound => rw [hget] at hfound; cases hfound
  | case4 met id hmet f hget ih =>
    have hne : id ≠ target := fun h => hparent (congrArg some h)
    have hnew : (met ++ [target]).contains id = false := by simpa [hne] using hmet
    have hwalk : s.comesBack target met (some id) =
        (f.data.folderId == some target || s.comesBack target (id :: met) f.data.folderId) := by
      rw [comesBack]
      split
      · next hseen => rw [hmet] at hseen; cases hseen
      · split
        · next hmissing => rw [hget] at hmissing; cases hmissing
        · next found hfound =>
          obtain rfl := Option.some.inj (hfound.symm.trans hget)
          rfl
    rw [hwalk, climb_of_get? hnew hget]
    simp only [map_eq_error_iff]
    by_cases hback : f.data.folderId = some target
    -- here the walk stops, and the climb stops at the next step
    · have hseen : (id :: (met ++ [target])).contains target = true := by simp
      refine iff_of_true (by simp [hback]) ⟨target, ?_⟩
      rw [hback]
      exact climb_of_met hseen
    · have hother : (f.data.folderId == some target) = false := by simpa using hback
      rw [hother, Bool.false_or]
      exact ih hback

/-- Putting a folder into a parent would close a loop exactly if a climb from the parent that
    has met the folder before meets a folder again. -/
theorem wouldLoop_iff_climb {id : String} {parent : Option String} :
    s.wouldLoop id parent = true ↔ ∃ last, s.climb [id] parent = .error (.folderCycle last) := by
  unfold wouldLoop
  by_cases hself : parent = some id
  · have hmet : [id].contains id = true := by simp
    rw [hself]
    exact iff_of_true (by simp) ⟨id, climb_of_met hmet⟩
  · have hother : (parent == some id) = false := by simpa using hself
    rw [hother, Bool.false_or]
    exact comesBack_iff_climb hself

/-- A new parent from which no loop is closed has a way up also once the folder is written. -/
theorem wayUp_of_not_wouldLoop {id : String} {parent : Option String}
    {above : List (Row .folder)} (h : s.wouldLoop id parent = false) (hway : s.WayUp parent above)
    (hsame : ∀ other, other ≠ id → t.get? .folder other = s.get? .folder other) :
    ∃ above, t.WayUp parent above := by
  cases hclimb : s.climb [id] parent with
  | ok above =>
    refine ⟨above, wayUp_of_climb hclimb fun other hother => hsame other ?_⟩
    simpa using hother
  | error e =>
    -- the climb met the folder itself, and this is what was looked for
    obtain ⟨_, last, _, _, rfl, _⟩ := climb_error_of_wayUp hway hclimb
    rw [wouldLoop_iff_climb.mpr ⟨last, hclimb⟩] at h
    cases h

/-! ### Climbing from a stored folder -/

section stored

variable {f : Row .folder}

/-- From a stored folder with a way up, the climb lists it. -/
theorem climb_of_wayUp {above : List (Row .folder)} (hf : s.get? .folder f.id = some f)
    (hway : s.WayUp f.data.folderId above) :
    s.climb [f.id] f.data.folderId = .ok above := by
  cases hclimb : s.climb [f.id] f.data.folderId with
  | ok found => rw [(wayUp_of_climb hclimb fun _ _ => rfl).unique hway]
  | error e =>
    obtain ⟨start, id, hstart, hreach, _, hmem⟩ := climb_error_of_wayUp hway hclimb
    obtain rfl : id = f.id := by simpa using hmem
    -- the folder would lie in itself
    have hcycle : TransGen s.LiesIn f.id f.id := .head' ⟨f, hf, hstart⟩ hreach
    exact absurd ⟨f.id, .refl, hcycle⟩ (WayUp.step hf hway).not_loops

/-- The climb from a stored folder meets a loop exactly if there is one. -/
theorem climb_cycle_iff (hf : s.get? .folder f.id = some f) :
    (∃ id, s.climb [f.id] f.data.folderId = .error (.folderCycle id)) ↔ s.Loops f.id := by
  constructor
  · rintro ⟨id, h⟩
    obtain ⟨start, last, hstart, hreach, ⟨-, hmem | hcycle⟩ | ⟨hfault, -⟩⟩ := climb_error h
    · obtain rfl : last = f.id := by simpa using hmem
      exact ⟨f.id, .refl, .head' ⟨f, hf, hstart⟩ hreach⟩
    · exact ⟨last, .head ⟨f, hf, hstart⟩ hreach, hcycle⟩
    · cases hfault
  · intro hloops
    cases hclimb : s.climb [f.id] f.data.folderId with
    | ok above =>
      exact absurd hloops (WayUp.step hf (wayUp_of_climb hclimb fun _ _ => rfl)).not_loops
    | error e =>
      obtain ⟨start, last, hstart, hreach, ⟨rfl, -⟩ | ⟨-, hmissing⟩⟩ := climb_error hclimb
      · exact ⟨last, rfl⟩
      · -- no way that loops ends at a folder that does not exist
        have hlast : s.Loops last := hloops.along (.head ⟨f, hf, hstart⟩ hreach)
        obtain ⟨parent, ⟨g, hg, -⟩, -⟩ := hlast.exists_parent
        rw [hmissing] at hg
        cases hg

/-- A stored folder loops exactly if putting it where it is would close a loop. -/
theorem loops_iff_wouldLoop (hf : s.get? .folder f.id = some f) :
    s.Loops f.id ↔ s.wouldLoop f.id f.data.folderId = true := by
  rw [← climb_cycle_iff hf, wouldLoop_iff_climb]

end stored

end Store

end RequestCatalog
