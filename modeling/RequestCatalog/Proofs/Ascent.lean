import RequestCatalog.Proofs.Inheritance.Authentication

/-! # The chain of a folder is the walk up from it

  `Store.walkUp` goes from a folder to the one that it lies in, step by step. It remembers
  nothing and never fails: above a folder that lies in no other it is nowhere, and in a loop it
  goes round for ever.

  A chain remembers what it met. It is asked for with `Op.askUpwards`, which reports a loop
  before it fails.

  * `WayUp.getElem?_eq`: where the walk comes to an end, the chain lists its places.
  * `MeetsAgain`: otherwise the walk comes to some folder for a second time, and
    `meetsAgain_of_climb` says that the chain fails with the first such folder. This is the
    folder by which the walk enters the loop.
  * `Intact.climb_cases`: wherever sessions get, no folder on the way is missing.
-/

namespace RequestCatalog

open Relation

namespace Store

variable {s : Store}

/-! ### The walk -/

/-- The folder that a folder lies in. -/
def parentOf (s : Store) (id : String) : Option String :=
  (s.get? .folder id).bind fun f => f.data.folderId

/-- Where a walk up is after so many steps. -/
def walkUp (s : Store) : Nat → Option String → Option String
  | 0, here => here
  | n + 1, here => s.walkUp n (here.bind s.parentOf)

theorem parentOf_of_get? {id : String} {f : Row .folder} (h : s.get? .folder id = some f) :
    s.parentOf id = f.data.folderId := by
  simp [parentOf, h]

theorem parentOf_eq_some_iff {id parent : String} :
    s.parentOf id = some parent ↔ s.LiesIn id parent := by
  exact Option.bind_eq_some_iff

theorem walkUp_succ_of_get? {id : String} {f : Row .folder} (h : s.get? .folder id = some f)
    (n : Nat) : s.walkUp (n + 1) (some id) = s.walkUp n f.data.folderId := by
  show s.walkUp n (s.parentOf id) = _
  rw [parentOf_of_get? h]

/-- A walk that has come to its end goes nowhere. -/
theorem walkUp_none (n : Nat) : s.walkUp n none = none := by
  induction n with
  | zero => rfl
  | succ n ih => exact ih

/-- Where the way up ends, the walk goes along it. -/
theorem WayUp.getElem?_eq {parent : Option String} {above : List (Row .folder)}
    (h : s.WayUp parent above) (n : Nat) : (above[n]?).map Row.id = s.walkUp n parent := by
  induction h generalizing n with
  | root => simp [walkUp_none]
  | @step id f above hget _ ih =>
    cases n with
    | zero => simp [walkUp, id_of_get? hget]
    | succ n =>
      rw [walkUp_succ_of_get? hget, ← ih n]
      simp

/-- A walk that has a loop ahead goes on for ever. -/
theorem Loops.walkUp_ne_none {id : String} (h : s.Loops id) (n : Nat) :
    s.walkUp n (some id) ≠ none := by
  induction n generalizing id with
  | zero => simp [walkUp]
  | succ n ih =>
    obtain ⟨parent, hlies, hparent⟩ := h.exists_parent
    show s.walkUp n (s.parentOf id) ≠ none
    rw [parentOf_eq_some_iff.mpr hlies]
    exact ih hparent

/-! ### The first folder that comes again -/

/-- After so many steps the walk comes to a folder again, or to one that was met before it began.
    All its places up to there are new. -/
structure MeetsAgain (s : Store) (met : List String) (start : Option String) (n : Nat)
    (id : String) : Prop where
  here : s.walkUp n start = some id
  again : id ∈ met ∨ ∃ k < n, s.walkUp k start = some id
  new : ∀ m < n, (∀ other ∈ met, s.walkUp m start ≠ some other) ∧
    ∀ k < m, s.walkUp k start ≠ s.walkUp m start

namespace MeetsAgain

variable {met : List String} {start : Option String} {id : String} {n : Nat}

/-- No later place is the first one that comes again. -/
theorem not_lt (h : s.MeetsAgain met start n id) {later : Nat} {other : String}
    (hother : s.MeetsAgain met start later other) : ¬ n < later := by
  intro hlt
  obtain ⟨hmet, hbefore⟩ := hother.new n hlt
  rcases h.again with hmem | ⟨k, hk, hwalk⟩
  · exact hmet id hmem h.here
  · exact hbefore k hk (hwalk.trans h.here.symm)

/-- There is one first folder that comes again. -/
theorem unique (h : s.MeetsAgain met start n id) {n' : Nat} {id' : String}
    (h' : s.MeetsAgain met start n' id') : id = id' := by
  obtain rfl : n = n' := Nat.le_antisymm (Nat.not_lt.mp (h'.not_lt h)) (Nat.not_lt.mp (h.not_lt h'))
  exact Option.some.inj (h.here.symm.trans h'.here)

/-- A walk that has met its first folder comes again where it does from the second one on. -/
theorem step {here : String} {f : Row .folder} (hget : s.get? .folder here = some f)
    (hnew : here ∉ met) (h : s.MeetsAgain (here :: met) f.data.folderId n id) :
    s.MeetsAgain met (some here) (n + 1) id := by
  have hstep : ∀ k, s.walkUp (k + 1) (some here) = s.walkUp k f.data.folderId :=
    walkUp_succ_of_get? hget
  refine ⟨(hstep n).trans h.here, ?_, ?_⟩
  · rcases h.again with hmem | ⟨k, hk, hwalk⟩
    · rcases List.mem_cons.mp hmem with rfl | hmem
      · exact .inr ⟨0, by omega, rfl⟩
      · exact .inl hmem
    · exact .inr ⟨k + 1, by omega, (hstep k).trans hwalk⟩
  · intro m hm
    cases m with
    | zero =>
      refine ⟨?_, by simp⟩
      intro other hmem hsame
      obtain rfl : here = other := Option.some.inj hsame
      exact hnew hmem
    | succ m =>
      obtain ⟨hmet, hbefore⟩ := h.new m (by omega)
      rw [hstep m]
      refine ⟨fun other hmem => hmet other (List.mem_cons_of_mem _ hmem), ?_⟩
      intro k hk
      cases k with
      | zero => exact (hmet here List.mem_cons_self).symm
      | succ k =>
        rw [hstep k]
        exact hbefore k (by omega)

end MeetsAgain

/-- A climb that fails with a loop names the first folder that comes again. -/
theorem meetsAgain_of_climb {met : List String} {start : Option String} {id : String}
    (h : s.climb met start = .error (.folderCycle id)) : ∃ n, s.MeetsAgain met start n id := by
  induction met, start using climb.induct s with
  | case1 met =>
    rw [climb] at h
    cases h
  | case2 met here hmet =>
    rw [climb_of_met hmet] at h
    cases h
    exact ⟨0, rfl, .inl (List.contains_iff_mem.mp hmet), by simp⟩
  | case3 met here hmet hget =>
    rw [climb_of_missing hmet hget] at h
    cases h
  | case4 met here hmet f hget ih =>
    rw [climb_of_get? hmet hget] at h
    obtain ⟨n, hagain⟩ := ih (map_eq_error_iff.mp h)
    exact ⟨n + 1, hagain.step hget (by simpa using hmet)⟩

/-! ### The way up as a list -/

namespace WayUp

variable {parent : Option String} {above : List (Row .folder)}

/-- From each of its folders on, a way up is the way up from that folder. -/
theorem of_suffix (h : s.WayUp parent above) {g : Row .folder} {rest : List (Row .folder)}
    (hsuffix : (g :: rest) <:+ above) :
    s.get? .folder g.id = some g ∧ s.WayUp g.data.folderId rest := by
  induction h with
  | root => simp at hsuffix
  | @step id f above hget habove ih =>
    rcases List.suffix_cons_iff.mp hsuffix with heq | hlater
    · obtain ⟨rfl, rfl⟩ := List.cons.inj heq
      rw [id_of_get? hget]
      exact ⟨hget, habove⟩
    · exact ih hlater

/-- Each folder on the way up lies in the next one. -/
theorem isChain (h : s.WayUp parent above) :
    above.IsChain fun g next => g.data.folderId = some next.id := by
  induction h with
  | root => exact .nil
  | @step id f above _ habove ih =>
    generalize hparent : f.data.folderId = parent at habove
    cases habove with
    | root => exact .singleton f
    | step hnext _ =>
      refine .cons_cons ?_ ih
      rw [id_of_get? hnext]
      exact hparent

/-- The last folder on the way up lies in no other. -/
theorem last_root (h : s.WayUp parent above) {last : Row .folder} (hlast : last ∈ above.getLast?) :
    last.data.folderId = none := by
  induction h with
  | root => simp at hlast
  | @step id f above _ habove ih =>
    generalize hparent : f.data.folderId = parent at habove
    cases habove with
    | root =>
      obtain rfl : f = last := by simpa using hlast
      exact hparent
    | step => exact ih (by simpa using hlast)

/-- The way up is made of what it starts from and what that lies in. -/
theorem reaches (h : s.WayUp parent above) {g : Row .folder} (hg : g ∈ above) :
    ∃ start, parent = some start ∧ ReflTransGen s.LiesIn start g.id := by
  induction h with
  | root => cases hg
  | @step id f above hget _ ih =>
    refine ⟨id, rfl, ?_⟩
    rcases List.mem_cons.mp hg with rfl | hlater
    · rw [id_of_get? hget]
    · obtain ⟨start, hparent, hreach⟩ := ih hlater
      exact .head ⟨f, hget, hparent⟩ hreach

/-- No folder comes twice on a way up. -/
theorem nodup (h : s.WayUp parent above) : (above.map Row.id).Nodup := by
  induction h with
  | root => exact List.nodup_nil
  | @step id f above hget habove ih =>
    rw [List.map_cons, List.nodup_cons]
    refine ⟨?_, ih⟩
    intro hmem
    obtain ⟨g, hg, hid⟩ := List.mem_map.mp hmem
    -- the folder would lie in itself
    obtain ⟨start, hparent, hreach⟩ := habove.reaches hg
    rw [hid, id_of_get? hget] at hreach
    have hcycle : TransGen s.LiesIn id id := .head' ⟨f, hget, hparent⟩ hreach
    exact (WayUp.step hget habove).not_loops ⟨id, .refl, hcycle⟩

end WayUp

/-! ### Where sessions get -/

/-- A folder that another one lies in is stored. -/
theorem Intact.holds_parent (hs : s.Intact) {id parent : String} (h : s.LiesIn id parent) :
    s.holds ⟨.folder, parent⟩ = true := by
  obtain ⟨f, hget, hparent⟩ := h
  apply hs.holds_ref (mem_of_get? hget)
  simp [Row.refs, Columns.refs, hparent]

/-- Above a stored folder there is a way up, or the climb comes to a folder that lies in itself.
    No folder is missing. -/
theorem Intact.climb_cases (hs : s.Intact) {f : Row .folder} (hf : f ∈ s.rows .folder) :
    (∃ above, s.WayUp (some f.id) (f :: above)) ∨
      ∃ id, s.climb [f.id] f.data.folderId = .error (.folderCycle id) ∧
        TransGen s.LiesIn id id := by
  have hget := hs.distinct.get?_of_mem hf
  cases hclimb : s.climb [f.id] f.data.folderId with
  | ok above => exact .inl ⟨above, .step hget (wayUp_of_climb hclimb fun _ _ => rfl)⟩
  | error e =>
    right
    obtain ⟨start, id, hparent, hreach, hwhy⟩ := climb_error hclimb
    have hway : TransGen s.LiesIn f.id id := .head' ⟨f, hget, hparent⟩ hreach
    rcases hwhy with ⟨rfl, hmet | hcycle⟩ | ⟨-, hmissing⟩
    · obtain rfl : id = f.id := by simpa using hmet
      exact ⟨f.id, rfl, hway⟩
    · exact ⟨id, rfl, hcycle⟩
    · -- the last step came from a stored folder, which names a stored one
      obtain ⟨_, _, hlies⟩ := TransGen.tail'_iff.mp hway
      have hheld := hs.holds_parent hlies
      rw [get?_eq_none_iff.mp hmissing] at hheld
      cases hheld

end Store

namespace Catalog

/-- Wherever sessions get, the chain of a stored folder is asked for with one of two results, and
    the walk up from the folder says with which.

    If the walk comes to an end, the chain lists it: the folder itself, then for each folder the
    one that it lies in, up to one that lies in no other. No folder comes twice, and from each
    folder on the list is the chain of that folder. Nothing is reported.

    If the walk goes on for ever, the question fails with the first folder that comes again. That
    folder lies in itself, and it is reported once. -/
theorem Reached.chain_is_walk {c : Catalog} (hc : c.Reached) {f : Row .folder}
    (hf : f ∈ c.store.rows .folder) :
    ((∃ n, c.store.walkUp n (some f.id) = none) →
      ∃ path : List (Row .folder),
        Op.askUpwards (·.chain f.node) c = .ok (path.map Row.node) c ∧
        path.head? = some f ∧
        (∀ n, (path[n]?).map Row.id = c.store.walkUp n (some f.id)) ∧
        (path.IsChain fun g next => g.data.folderId = some next.id) ∧
        (∀ last ∈ path.getLast?, last.data.folderId = none) ∧
        (path.map Row.id).Nodup ∧
        ∀ g rest, (g :: rest) <:+ path → g ∈ c.store.rows .folder ∧
          Op.askUpwards (·.chain g.node) c = .ok ((g :: rest).map Row.node) c) ∧
    ((∀ n, c.store.walkUp n (some f.id) ≠ none) →
      ∃ id n, c.store.MeetsAgain [] (some f.id) n id ∧ TransGen c.store.LiesIn id id ∧
        Op.askUpwards (·.chain f.node) c =
          .error (.folderCycle id) { c with journal := c.journal ++ [.circularChain id] }) := by
  have hget := hc.intact.distinct.get?_of_mem hf
  rcases hc.intact.climb_cases hf with ⟨above, hway⟩ | ⟨id, hclimb, hcycle⟩
  · -- the walk goes along the way up and ends with it
    have hwalk := hway.getElem?_eq
    have hchain : ∀ g rest, (g :: rest) <:+ (f :: above) → g ∈ c.store.rows .folder ∧
        Op.askUpwards (·.chain g.node) c = .ok ((g :: rest).map Row.node) c := by
      intro g rest hsuffix
      obtain ⟨hstored, hrest⟩ := hway.of_suffix hsuffix
      exact ⟨Store.mem_of_get? hstored,
        Op.run_askUpwards_of_ok (Store.chain_of_wayUp hstored hrest)⟩
    constructor
    · intro _
      exact ⟨f :: above, (hchain f above (List.suffix_refl _)).2, rfl, hwalk, hway.isChain,
        fun last => hway.last_root, hway.nodup, hchain⟩
    · intro hgoes
      have hend := hwalk (f :: above).length
      rw [List.getElem?_length] at hend
      exact absurd hend.symm (hgoes _)
  · have hloops : c.store.Loops f.id := (Store.climb_cycle_iff hget).mp ⟨id, hclimb⟩
    constructor
    · intro ⟨n, hend⟩
      exact absurd hend (hloops.walkUp_ne_none n)
    · intro _
      have hfull : c.store.climb [] (some f.id) = .error (.folderCycle id) := by
        rw [Store.climb_of_get? (by simp) hget, hclimb]
        rfl
      obtain ⟨n, hagain⟩ := Store.meetsAgain_of_climb hfull
      exact ⟨id, n, hagain, hcycle, Op.run_askUpwards_of_cycle
          (Store.chain_eq_cycle_iff.mpr hclimb)⟩

/-- Below the two folders that lie inside each other there is a third one. Two more folders lie
    elsewhere, one in the other. -/
def tangled : Catalog :=
  (runFrom looped
    [⟨none, .upsert .folder
        ⟨.value "c", { workspaceId := .value "w", folderId := .value "a" }⟩ "window"⟩,
     ⟨none, .upsert .folder ⟨.value "d", { workspaceId := .value "w" }⟩ "window"⟩,
     ⟨none, .upsert .folder
        ⟨.value "e", { workspaceId := .value "w", folderId := .value "d" }⟩ "window"⟩]).2

/-- The chain of the inner folder lists it and the outer one. The chain of the third folder fails
    with the folder by which the walk comes into the loop. -/
theorem tangled_chains :
    (∃ f ∈ tangled.store.rows .folder, ∃ path : List (Row .folder), f.id = "e" ∧
      Op.askUpwards (·.chain f.node) tangled = .ok (path.map Row.node) tangled ∧
      (path[0]?).map Row.id = some "e" ∧ (path[1]?).map Row.id = some "d" ∧
      (path[2]?).map Row.id = none) ∧
    ∃ f ∈ tangled.store.rows .folder, f.id = "c" ∧
      Op.askUpwards (·.chain f.node) tangled =
        .error (.folderCycle "a") { tangled with
          journal := tangled.journal ++ [.circularChain "a"] } := by
  have hreached : tangled.Reached := looped_reached.runFrom _
  constructor
  · have hstored : (tangled.store.get? .folder "e").isSome = true := by decide +kernel
    obtain ⟨f, hget⟩ := Option.isSome_iff_exists.mp hstored
    have hid := Store.id_of_get? hget
    have hends : tangled.store.walkUp 2 (some "e") = none := by decide +kernel
    obtain ⟨path, hasked, -, hwalk, -⟩ :=
      (hreached.chain_is_walk (Store.mem_of_get? hget)).1 ⟨2, by rw [hid, hends]⟩
    rw [hid] at hwalk
    refine ⟨f, Store.mem_of_get? hget, path, hid, hasked, ?_⟩
    rw [hwalk 0, hwalk 1, hwalk 2]
    exact ⟨rfl, by decide +kernel, hends⟩
  · have hstored : (tangled.store.get? .folder "c").isSome = true := by decide +kernel
    obtain ⟨f, hget⟩ := Option.isSome_iff_exists.mp hstored
    have hid := Store.id_of_get? hget
    -- the walk goes from `c` to `a`, to `b` and to `a` again
    have hagain : tangled.store.MeetsAgain [] (some "c") 3 "a" :=
      ⟨by decide +kernel, .inr ⟨1, by decide, by decide +kernel⟩, by decide +kernel⟩
    have hparent : tangled.store.parentOf "c" = some "a" := by decide +kernel
    rw [Store.parentOf_of_get? hget] at hparent
    have hloops : tangled.store.Loops f.id := by
      rw [Store.loops_iff_wouldLoop (by rw [hid, hget])]
      rw [hid, hparent]
      decide +kernel
    obtain ⟨id, n, hfirst, -, hasked⟩ :=
      (hreached.chain_is_walk (Store.mem_of_get? hget)).2 hloops.walkUp_ne_none
    rw [hid] at hfirst
    obtain rfl : id = "a" := hfirst.unique hagain
    exact ⟨f, Store.mem_of_get? hget, hid, hasked⟩

end Catalog

end RequestCatalog
