import RequestCatalog.Proofs.Cascade
import RequestCatalog.Store.Lookup

/-! # How far deletions stand inside each other

  The tables refuse a deletion when one would have to be opened inside too many others. On
  which level a record is deleted depends on the order in which the tasks are worked off. It
  can be told from the references alone:

  * Apart from its workspace a record refers to one record at most. So there is one way up
    from each record, and below a folder the length of this way is the level
    (`Cascade.Lies.unique`, `Cascade.sweep_delete_iff`).
  * A workspace is left by its folders in turn. A record goes with the first of them that it
    lies below, one level further down than it lies (`Cascade.sweep_deletes_iff`).

  `Store.TooDeep` puts this together, and `Store.erase_eq_error_iff` says that these are the
  deletions that the tables refuse. The proofs follow `Cascade.sweep` task by task: what is set
  out to do stays on levels that the references allow (`Cascade.OnLevel`).
-/

namespace RequestCatalog

namespace Cascade

variable {pool : List (Key × List Key)} {tasks rest : List Task} {gone : List Key}
  {key top other : Key} {level n : Nat}

/-! ### Ways up -/

/-- The record is `top`, or the way up from it comes to `top` after so many references. -/
inductive Lies (pool : List (Key × List Key)) (top : Key) : Nat → Key → Prop where
  | self (h : has pool top = true) : Lies pool top 0 top
  | refers {entry : Key × List Key} {ref : Key} {n : Nat} (hentry : entry ∈ pool)
      (hother : entry.1 ≠ top) (href : ref ∈ entry.2) (h : Lies pool top n ref) :
      Lies pool top (n + 1) entry.1

/-- What lies below a record lies below it as far, wherever more is stored. -/
theorem Lies.mono {pool more : List (Key × List Key)} (hmore : ∀ entry ∈ pool, entry ∈ more)
    {top key : Key} {n : Nat} (h : Lies pool top n key) : Lies more top n key := by
  induction h with
  | self hhas =>
    obtain ⟨entry, hentry, hkey⟩ := has_iff.mp hhas
    exact .self (has_iff.mpr ⟨entry, hmore entry hentry, hkey⟩)
  | refers hentry hother href _ ih => exact .refers (hmore _ hentry) hother href ih

/-- Apart from workspaces a record refers to one record at most. -/
def Unbranched (pool : List (Key × List Key)) : Prop :=
  ∀ entry ∈ pool, ∀ other ∈ pool, entry.1 = other.1 → ∀ ref ∈ entry.2, ∀ next ∈ other.2,
    ref.kind ≠ .workspace → next.kind ≠ .workspace → ref = next

/-- No reference leads from a workspace. -/
theorem Followed.kind_ne_workspace (h : Followed pool) {entry : Key × List Key} {ref : Key}
    (hentry : entry ∈ pool) (href : ref ∈ entry.2) : entry.1.kind ≠ .workspace := by
  intro hkind
  have hmem := h entry hentry ref href
  rw [hkind] at hmem
  generalize ref.kind = k at hmem
  cases k <;> simp [followers] at hmem

namespace Lies

/-- What lies below a record that is no workspace is no workspace. -/
theorem kind_ne_workspace (hfollowed : Followed pool) (htop : top.kind ≠ .workspace)
    (h : Lies pool top n key) : key.kind ≠ .workspace := by
  cases h with
  | self => exact htop
  | refers hentry _ href => exact hfollowed.kind_ne_workspace hentry href

/-- There is one way up only. -/
theorem unique (hpool : Unbranched pool) (hfollowed : Followed pool)
    (htop : top.kind ≠ .workspace) (h : Lies pool top n key) {m : Nat} (h' : Lies pool top m key) :
    n = m := by
  induction h generalizing m with
  | self =>
    cases h' with
    | self => rfl
    | refers _ hother => exact absurd rfl hother
  | @refers entry ref n hentry hother href hlies ih =>
    generalize hkey : entry.1 = found at h'
    cases h' with
    | self => exact absurd hkey hother
    | @refers entry' next m hentry' _ hnext hlies' =>
      have hsame : ref = next := hpool entry hentry entry' hentry' hkey ref href next hnext
        (hlies.kind_ne_workspace hfollowed htop) (hlies'.kind_ne_workspace hfollowed htop)
      rw [ih (hsame ▸ hlies')]

end Lies

/-! ### Tasks on their levels -/

/-- The level on which the records are deleted that a task is for. -/
def Task.depth : Task → Nat
  | .delete level _ => level
  | .follow level _ _ => level + 1

/-- The records that the tasks are for are on levels that are allowed to them, and so is whoever
    refers to a record. -/
structure OnLevel (D : Nat → Key → Prop) (pool : List (Key × List Key)) (tasks : List Task) :
    Prop where
  tasks : ∀ t ∈ tasks, ∀ key ∈ t.targets pool, D t.depth key
  pool : ∀ entry ∈ pool, ∀ ref ∈ entry.2, ∀ n, D n ref → D (n + 1) entry.1

/-- Where a deletion opens others and is not refused, its level is small enough: the first kind
    of record to be followed is followed at once. -/
theorem lt_of_sweep_behind (h : sweep pool (Task.behind level key ++ rest) = some gone)
    (hopens : followers key.kind ≠ []) : level < greatestLevel := by
  obtain ⟨k, ks, hks⟩ := List.exists_cons_of_ne_nil hopens
  by_contra hle
  rw [Task.behind, hks, List.map_cons, List.cons_append, sweep_follow_of_le (by omega)] at h
  cases h

namespace OnLevel

variable {D : Nat → Key → Prop}

/-- What a deleted record leaves to be done is one level further down. -/
theorem delete (h : OnLevel D pool (.delete level key :: rest)) (hhas : has pool key = true) :
    D level key ∧ OnLevel D (without pool key) (Task.behind level key ++ rest) := by
  have hkey : D level key := h.tasks _ List.mem_cons_self key (by simp [Task.targets, hhas])
  refine ⟨hkey, ⟨fun t ht other hother => ?_, fun entry hentry => ?_⟩⟩
  · rcases List.mem_append.mp ht with hnew | hold
    · obtain ⟨k, -, rfl⟩ := List.mem_map.mp hnew
      obtain ⟨entry, hentry, rfl, -, href⟩ := mem_referring.mp hother
      exact h.pool entry (mem_without.mp hentry).1 key href level hkey
    · exact h.tasks t (List.mem_cons_of_mem _ hold) other (Task.mem_targets_without_iff.mp hother).1
  · exact h.pool entry (mem_without.mp hentry).1

theorem skip {t : Task} (h : OnLevel D pool (t :: rest)) : OnLevel D pool rest :=
  ⟨fun t ht => h.tasks t (List.mem_cons_of_mem _ ht), h.pool⟩

/-- What is found by following a record is on the level that the task is for. -/
theorem follow {k : Kind} (h : OnLevel D pool (.follow level key k :: rest)) :
    OnLevel D pool ((referring pool key k).map (.delete (level + 1)) ++ rest) := by
  refine ⟨fun t ht other hother => ?_, h.pool⟩
  rcases List.mem_append.mp ht with hnew | hold
  · obtain ⟨found, hfound, rfl⟩ := List.mem_map.mp hnew
    obtain ⟨rfl, -⟩ := Task.mem_targets_delete.mp hother
    exact h.tasks _ List.mem_cons_self other hfound
  · exact h.skip.tasks t hold other hother

/-- If all levels on which a deletion opens others are small enough, the tasks can be worked
    off. -/
theorem exists_sweep (h : OnLevel D pool tasks)
    (hfollow : ∀ level key k, Task.follow level key k ∈ tasks → level < greatestLevel)
    (hlevel : ∀ n key, D n key → followers key.kind ≠ [] → n < greatestLevel) :
    ∃ gone, sweep pool tasks = some gone := by
  induction pool, tasks using sweep.induct with
  | case1 pool => exact ⟨[], sweep_nil⟩
  | case2 pool level key rest hhas ih =>
    obtain ⟨hkey, hrest⟩ := h.delete hhas
    obtain ⟨gone, hgone⟩ := ih hrest (by
      intro l found k hmem
      rcases List.mem_append.mp hmem with hnew | hold
      · obtain ⟨k', hk', heq⟩ := List.mem_map.mp hnew
        cases heq
        exact hlevel level key hkey (List.ne_nil_of_mem hk')
      · exact hfollow l found k (List.mem_cons_of_mem _ hold))
    exact ⟨key :: gone, by rw [sweep_delete_of_has hhas, hgone]; rfl⟩
  | case3 pool level key rest hhas ih =>
    rw [sweep_delete_of_not_has (by simpa using hhas)]
    exact ih h.skip fun l found k hmem => hfollow l found k (List.mem_cons_of_mem _ hmem)
  | case4 pool level key k rest hlt ih =>
    rw [sweep_follow_of_lt hlt]
    refine ih h.follow fun l found k' hmem => ?_
    rcases List.mem_append.mp hmem with hnew | hold
    · obtain ⟨other, -, heq⟩ := List.mem_map.mp hnew
      cases heq
    · exact hfollow l found k' (List.mem_cons_of_mem _ hold)
  | case5 pool level key k rest hle =>
    exact absurd (hfollow level key k List.mem_cons_self) hle

/-- If the tasks can be worked off, each record goes on a level that is allowed to it, and small
    enough where its deletion opens others. -/
theorem of_sweep (h : OnLevel D pool tasks) (hsweep : sweep pool tasks = some gone) :
    ∀ key ∈ gone, ∃ n, D n key ∧ (followers key.kind ≠ [] → n < greatestLevel) := by
  induction pool, tasks using sweep.induct generalizing gone with
  | case1 pool =>
    cases sweep_nil.symm.trans hsweep
    simp
  | case2 pool level key rest hhas ih =>
    rw [sweep_delete_of_has hhas] at hsweep
    obtain ⟨others, hothers, rfl⟩ := Option.map_eq_some_iff.mp hsweep
    obtain ⟨hkey, hrest⟩ := h.delete hhas
    exact List.forall_mem_cons.mpr ⟨⟨level, hkey, lt_of_sweep_behind hothers⟩, ih hrest hothers⟩
  | case3 pool level key rest hhas ih =>
    rw [sweep_delete_of_not_has (by simpa using hhas)] at hsweep
    exact ih h.skip hsweep
  | case4 pool level key k rest hlt ih =>
    rw [sweep_follow_of_lt hlt] at hsweep
    exact ih h.follow hsweep
  | case5 pool level key k rest hle =>
    rw [sweep_follow_of_le (by omega)] at hsweep
    cases hsweep

end OnLevel

/-! ### One deletion -/

/-- Below a record that is not there lies nothing. -/
theorem not_lies_of_not_has (h : has pool top = false) : ¬ Lies pool top n key := by
  intro hlies
  induction hlies with
  | self hhas => simp [h] at hhas
  | refers _ _ _ _ ih => exact ih

/-- What lies below a record is deleted as many levels below it. -/
theorem onLevel_delete (level : Nat) (hhas : has pool top = true) :
    OnLevel (fun n key => ∃ m, n = level + m ∧ Lies pool top m key) (without pool top)
      (Task.behind level top) := by
  constructor
  · intro t ht key hkey
    obtain ⟨k, -, rfl⟩ := List.mem_map.mp ht
    obtain ⟨entry, hentry, rfl, -, href⟩ := mem_referring.mp hkey
    obtain ⟨hmem, hother⟩ := mem_without.mp hentry
    exact ⟨1, rfl, .refers hmem hother href (.self hhas)⟩
  · rintro entry hentry ref href n ⟨m, rfl, hlies⟩
    obtain ⟨hmem, hother⟩ := mem_without.mp hentry
    exact ⟨m + 1, rfl, .refers hmem hother href hlies⟩

/-- A deletion takes what lies below the record. -/
theorem mem_sweep_delete_iff (hfollowed : Followed pool)
    (h : sweep pool [.delete level top] = some gone) :
    key ∈ gone ↔ ∃ n, Lies pool top n key := by
  constructor
  · cases hhas : has pool top with
    | false =>
      rw [sweep_delete_of_not_has hhas, sweep_nil] at h
      cases h
      simp
    | true =>
      rw [sweep_delete_of_has hhas, List.append_nil] at h
      obtain ⟨others, hothers, rfl⟩ := Option.map_eq_some_iff.mp h
      intro hkey
      rcases List.mem_cons.mp hkey with rfl | hmem
      · exact ⟨0, .self hhas⟩
      · obtain ⟨n, ⟨m, -, hlies⟩, -⟩ := (onLevel_delete level hhas).of_sweep hothers key hmem
        exact ⟨m, hlies⟩
  · obtain ⟨htargets, hclosed⟩ := sweep_complete hfollowed h
    rintro ⟨n, hlies⟩
    induction hlies with
    | self hhas =>
      exact htargets _ List.mem_cons_self _ (Task.mem_targets_delete.mpr ⟨rfl, hhas⟩)
    | refers hentry _ href _ ih => exact hclosed _ hentry _ href ih

/-- A record that is no workspace can be deleted exactly if no deletion that opens others is too
    far below it. -/
theorem sweep_delete_iff (level : Nat) (hpool : Unbranched pool) (hfollowed : Followed pool)
    (htop : top.kind ≠ .workspace) :
    (∃ gone, sweep pool [.delete level top] = some gone) ↔
      ∀ n key, Lies pool top n key → followers key.kind ≠ [] → level + n < greatestLevel := by
  cases hhas : has pool top with
  | false =>
    rw [sweep_delete_of_not_has hhas, sweep_nil]
    exact iff_of_true ⟨[], rfl⟩ fun n key hlies => absurd hlies (not_lies_of_not_has hhas)
  | true =>
    rw [sweep_delete_of_has hhas]
    constructor
    · rintro ⟨gone, hgone⟩ n key hlies hopens
      obtain ⟨others, hothers, rfl⟩ := Option.map_eq_some_iff.mp hgone
      have hgone' : sweep pool [.delete level top] = some (top :: others) := by
        rw [sweep_delete_of_has hhas, hothers]
        rfl
      rcases List.mem_cons.mp ((mem_sweep_delete_iff hfollowed hgone').mpr ⟨n, hlies⟩) with
        rfl | hmem
      · rw [hlies.unique hpool hfollowed htop (.self hhas)]
        exact lt_of_sweep_behind hothers hopens
      · rw [List.append_nil] at hothers
        obtain ⟨-, ⟨m, rfl, hlies'⟩, hlt⟩ := (onLevel_delete level hhas).of_sweep hothers key hmem
        rw [hlies.unique hpool hfollowed htop hlies']
        exact hlt hopens
    · intro hlevel
      rw [List.append_nil]
      obtain ⟨others, hothers⟩ := (onLevel_delete level hhas).exists_sweep
        (fun l found k hmem => by
          obtain ⟨k', hk', heq⟩ := List.mem_map.mp hmem
          cases heq
          exact hlevel 0 top (.self hhas) (List.ne_nil_of_mem hk'))
        (by
          rintro n key ⟨m, rfl, hlies⟩ hopens
          exact hlevel m key hlies hopens)
      exact ⟨top :: others, by rw [hothers]; rfl⟩

/-! ### Several deletions in turn -/

/-- The pool without the records that are gone. -/
def spare (pool : List (Key × List Key)) (gone : List Key) : List (Key × List Key) :=
  pool.filter fun entry => !gone.contains entry.1

theorem mem_spare {entry : Key × List Key} :
    entry ∈ spare pool gone ↔ entry ∈ pool ∧ entry.1 ∉ gone := by
  simp [spare]

theorem Unbranched.spare (h : Unbranched pool) : Unbranched (spare pool gone) :=
  fun entry hentry other hother =>
    h entry (mem_spare.mp hentry).1 other (mem_spare.mp hother).1

theorem Followed.spare (h : Followed pool) : Followed (spare pool gone) :=
  fun entry hentry => h entry (mem_spare.mp hentry).1

theorem spare_without {others : List Key} :
    spare (without pool key) others = spare pool (key :: others) := by
  simp only [spare, without, List.filter_filter]
  refine List.filter_congr fun entry _ => ?_
  by_cases h : entry.1 = key <;> simp [h]

/-- Tasks are worked off one part after the other: the second part finds the pool without what
    the first one took. -/
theorem sweep_append {more : List Task} :
    sweep pool (tasks ++ more) = (sweep pool tasks).bind fun gone =>
      (gone ++ ·) <$> sweep (spare pool gone) more := by
  induction pool, tasks using sweep.induct with
  | case1 pool => simp [spare, Option.map_id']
  | case2 pool level key rest hhas ih =>
    rw [List.cons_append, sweep_delete_of_has hhas, sweep_delete_of_has hhas, ← List.append_assoc,
      ih]
    cases sweep (without pool key) (Task.behind level key ++ rest) with
    | none => rfl
    | some others =>
      simp [spare_without, Function.comp_def]
  | case3 pool level key rest hhas ih =>
    have hnone : has pool key = false := by simpa using hhas
    rw [List.cons_append, sweep_delete_of_not_has hnone, sweep_delete_of_not_has hnone, ih]
  | case4 pool level key k rest hlt ih =>
    rw [List.cons_append, sweep_follow_of_lt hlt, sweep_follow_of_lt hlt, ← List.append_assoc, ih]
  | case5 pool level key k rest hle =>
    rw [List.cons_append, sweep_follow_of_le (by omega), sweep_follow_of_le (by omega)]
    rfl

/-- Records that are gone take from the ways up what lies below them, and nothing else, if all
    that refers to them is gone with them. -/
theorem lies_spare_iff (hfollowed : Followed pool) (htop : top.kind ≠ .workspace)
    (hclosed : ∀ entry ∈ pool, ∀ ref ∈ entry.2, ref.kind ≠ .workspace → ref ∈ gone →
      entry.1 ∈ gone) :
    Lies (spare pool gone) top n key ↔ Lies pool top n key ∧ key ∉ gone := by
  constructor
  · intro h
    induction h with
    | self hhas =>
      obtain ⟨entry, hentry, rfl⟩ := has_iff.mp hhas
      obtain ⟨hmem, hstays⟩ := mem_spare.mp hentry
      exact ⟨.self (has_iff.mpr ⟨entry, hmem, rfl⟩), hstays⟩
    | refers hentry hother href _ ih =>
      obtain ⟨hmem, hstays⟩ := mem_spare.mp hentry
      exact ⟨.refers hmem hother href ih.1, hstays⟩
  · rintro ⟨h, hstays⟩
    induction h with
    | self hhas =>
      obtain ⟨entry, hentry, rfl⟩ := has_iff.mp hhas
      exact .self (has_iff.mpr ⟨entry, mem_spare.mpr ⟨hentry, hstays⟩, rfl⟩)
    | @refers entry ref n hentry hother href hlies ih =>
      refine .refers (mem_spare.mpr ⟨hentry, hstays⟩) hother href (ih fun hgone => hstays ?_)
      exact hclosed entry hentry ref href (hlies.kind_ne_workspace hfollowed htop) hgone

/-- Records that are no workspaces can be deleted in turn exactly if no deletion that opens others
    is too far below the first of them that it lies below. -/
theorem sweep_deletes_iff (hpool : Unbranched pool) (hfollowed : Followed pool) {tops : List Key}
    (htops : ∀ top ∈ tops, top.kind ≠ .workspace) :
    (∃ gone, sweep pool (tops.map (.delete level)) = some gone) ↔
      ∀ before top after, tops = before ++ top :: after → ∀ n key, Lies pool top n key →
        followers key.kind ≠ [] → (∀ other ∈ before, ∀ m, ¬ Lies pool other m key) →
          level + n < greatestLevel := by
  induction tops generalizing pool with
  | nil => simp
  | cons first rest ih =>
    obtain ⟨hfirst, hrest⟩ := List.forall_mem_cons.mp htops
    have hsplit : sweep pool ((first :: rest).map (.delete level)) =
        (sweep pool [.delete level first]).bind fun gone =>
          (gone ++ ·) <$> sweep (spare pool gone) (rest.map (.delete level)) := by
      rw [← sweep_append]
      rfl
    rw [hsplit]
    have hone := sweep_delete_iff level hpool hfollowed hfirst
    cases hgone : sweep pool [.delete level first] with
    | none =>
      -- what stands in the way lies below the first record
      have hnone : ¬ ∀ n key, Lies pool first n key → followers key.kind ≠ [] →
          level + n < greatestLevel := fun h => by simpa [hgone] using hone.mpr h
      refine iff_of_false (by simp) fun h => hnone fun n key hlies hopens => ?_
      exact h [] first rest rfl n key hlies hopens (by simp)
    | some gone =>
      have hbelow := hone.mp ⟨gone, hgone⟩
      have hclosed := (sweep_complete hfollowed hgone).2
      have hspare : ∀ {top}, top ∈ rest → ∀ n key, Lies (spare pool gone) top n key ↔
          Lies pool top n key ∧ ∀ m, ¬ Lies pool first m key := by
        intro top htop n key
        rw [lies_spare_iff hfollowed (hrest top htop)
          (fun entry hentry ref href _ => hclosed entry hentry ref href),
          mem_sweep_delete_iff hfollowed hgone, not_exists]
      have hunbranched : Unbranched (spare pool gone) := hpool.spare
      have hlater := ih hunbranched hfollowed.spare hrest
      have hends : (∃ all, ((some gone).bind fun gone =>
            (gone ++ ·) <$> sweep (spare pool gone) (rest.map (.delete level))) = some all) ↔
          ∃ others, sweep (spare pool gone) (rest.map (.delete level)) = some others := by
        simp [Option.map_eq_some_iff]
      rw [hends, hlater]
      constructor
      · intro h before top after heq n key hlies hopens hnew
        cases before with
        | nil =>
          obtain ⟨rfl, rfl⟩ := List.cons.inj heq
          exact hbelow n key hlies hopens
        | cons other before =>
          obtain ⟨rfl, rfl⟩ := List.cons.inj heq
          obtain ⟨hfresh, hnew⟩ := List.forall_mem_cons.mp hnew
          have hmem : ∀ found ∈ before, found ∈ before ++ top :: after :=
            fun _ => List.mem_append_left _
          refine h before top after rfl n key ?_ hopens fun found hfound m hbefore => ?_
          · exact (hspare (List.mem_append_right _ List.mem_cons_self) n key).mpr ⟨hlies, hfresh⟩
          · exact hnew found hfound m ((hspare (hmem found hfound) m key).mp hbefore).1
      · rintro h before top after rfl n key hlies hopens hnew
        have hmem : ∀ found ∈ before, found ∈ before ++ top :: after :=
          fun _ => List.mem_append_left _
        obtain ⟨hlies, hfresh⟩ :=
          (hspare (List.mem_append_right _ List.mem_cons_self) n key).mp hlies
        refine h (first :: before) top after rfl n key hlies hopens ?_
        refine List.forall_mem_cons.mpr ⟨hfresh, fun found hfound m hbefore => ?_⟩
        exact hnew found hfound m ((hspare (hmem found hfound) m key).mpr ⟨hbefore, hfresh⟩)

/-! ### The deletion of a workspace -/

section workspace

variable {w : Key}

/-- The kinds of record that are followed before the folders when a workspace goes. -/
def loose : List Kind :=
  [.exchange .grpc, .exchange .http, .request .grpc, .request .http]

theorem mem_loose {k : Kind} : k ∈ loose ↔ (∃ p, k = .request p) ∨ ∃ p, k = .exchange p := by
  rcases k with _ | _ | (_ | _) | (_ | _) <;> simp [loose]

/-- The requests and results that refer to a workspace can always be deleted. With them go results
    of these requests, and nothing else. -/
theorem exists_sweep_loose (hfollowed : Followed pool) :
    ∃ gone, sweep pool (loose.map (.follow 0 w)) = some gone ∧
      (∀ key ∈ gone, (∃ p, key.kind = .request p ∧ key ∈ referring pool w key.kind) ∨
        ∃ p, key.kind = .exchange p) ∧
      (∀ p, ∀ key ∈ referring pool w (.request p), key ∈ gone) ∧
      ∀ entry ∈ pool, ∀ ref ∈ entry.2, ref ∈ gone → entry.1 ∈ gone := by
  let D (n : Nat) (key : Key) : Prop :=
    (∃ p, n = 1 ∧ key.kind = .request p ∧ key ∈ referring pool w key.kind) ∨
      ∃ p, n ≤ 2 ∧ key.kind = .exchange p
  have hlevels : OnLevel D pool (loose.map (.follow 0 w)) := by
    constructor
    · intro t ht key hkey
      obtain ⟨k, hk, rfl⟩ := List.mem_map.mp ht
      have hkind : key.kind = k := by
        obtain ⟨entry, -, rfl, hkind, -⟩ := mem_referring.mp hkey
        exact hkind
      rcases mem_loose.mp hk with ⟨p, rfl⟩ | ⟨p, rfl⟩
      · exact .inl ⟨p, rfl, hkind, hkind.symm ▸ hkey⟩
      · exact .inr ⟨p, Nat.le_succ 1, hkind⟩
    · -- only results refer to a request, and nothing refers to them
      intro entry hentry ref href n hD
      have hmem := hfollowed entry hentry ref href
      rcases hD with ⟨p, rfl, hkind, -⟩ | ⟨p, -, hkind⟩
      · rw [hkind] at hmem
        exact .inr ⟨p, Nat.le_refl 2, by simpa [followers] using hmem⟩
      · rw [hkind] at hmem
        simp [followers] at hmem
  obtain ⟨gone, hgone⟩ := hlevels.exists_sweep
    (fun level key k hmem => by
      obtain ⟨k', -, heq⟩ := List.mem_map.mp hmem
      cases heq
      decide)
    (by
      rintro n key (⟨p, rfl, -⟩ | ⟨p, -, hkind⟩) hopens
      · decide
      · rw [hkind] at hopens
        exact absurd rfl hopens)
  obtain ⟨htargets, hclosed⟩ := sweep_complete hfollowed hgone
  refine ⟨gone, hgone, fun key hkey => ?_, fun p key hkey => ?_, hclosed⟩
  · obtain ⟨n, ⟨p, -, hrequest⟩ | ⟨p, -, hexchange⟩, -⟩ := hlevels.of_sweep hgone key hkey
    · exact .inl ⟨p, hrequest⟩
    · exact .inr ⟨p, hexchange⟩
  · exact htargets _ (List.mem_map_of_mem (mem_loose.mpr (.inl ⟨p, rfl⟩))) key hkey

/-- These records go with the requests and results of a workspace, which are followed before its
    folders: requests that refer to the workspace, all of them, and results. Whoever refers to one
    of them goes as well. -/
structure GoesFirst (pool : List (Key × List Key)) (w : Key) (gone : List Key) : Prop where
  sweep_eq : sweep (without pool w) (loose.map (.follow 0 w)) = some gone
  kinds : ∀ key ∈ gone, (∃ p, key.kind = .request p ∧ key ∈ referring pool w key.kind) ∨
    ∃ p, key.kind = .exchange p
  requests : ∀ p, ∀ key ∈ referring pool w (.request p), key ≠ w → key ∈ gone
  closed : ∀ entry ∈ without pool w, ∀ ref ∈ entry.2, ref ∈ gone → entry.1 ∈ gone

theorem exists_goesFirst (hfollowed : Followed pool) : ∃ gone, GoesFirst pool w gone := by
  have hwithout : Followed (without pool w) := fun entry hentry =>
    hfollowed entry (mem_without.mp hentry).1
  have hloose : ∀ {key : Key} {k : Kind}, key ∈ referring (without pool w) w k ↔
      key ∈ referring pool w k ∧ key ≠ w := Task.mem_targets_without_iff (t := .follow 0 w _)
  obtain ⟨gone, hgone, hkinds, hrequests, hclosed⟩ := exists_sweep_loose (w := w) hwithout
  refine ⟨gone, hgone, fun key hkey => ?_, fun p key hkey hother => ?_, hclosed⟩
  · exact (hkinds key hkey).imp_left fun ⟨p, hkind, hrefers⟩ => ⟨p, hkind, (hloose.mp hrefers).1⟩
  · exact hrequests p key (hloose.mpr ⟨hkey, hother⟩)

/-- The record is one whose deletion opens others and that is left when the folders of a workspace
    are deleted: a folder, or a request of another workspace. -/
def Remains (pool : List (Key × List Key)) (w key : Key) : Prop :=
  key.kind = .folder ∨ ∃ p, key.kind = .request p ∧ key ∉ referring pool w (.request p)

namespace GoesFirst

variable {gone : List Key} (hgone : GoesFirst pool w gone) (hw : w.kind = .workspace)

include hgone hw

/-- No folder goes before the folders are followed. -/
theorem folder_stays {key : Key} (hkind : key.kind = .folder) : key ∉ w :: gone := by
  intro hmem
  rcases List.mem_cons.mp hmem with rfl | hmem
  · rw [hw] at hkind
    cases hkind
  · rcases hgone.kinds key hmem with ⟨p, hrequest, -⟩ | ⟨p, hexchange⟩
    · rw [hkind] at hrequest
      cases hrequest
    · rw [hkind] at hexchange
      cases hexchange

/-- So the folders of the workspace are still there. -/
theorem referring_spare :
    referring (spare pool (w :: gone)) w .folder = referring pool w .folder := by
  simp only [referring, spare, List.filter_filter]
  congr 1
  refine List.filter_congr fun entry _ => ?_
  by_cases hkind : entry.1.kind = .folder
  · simp [hkind, hgone.folder_stays hw hkind]
  · simp [hkind]

/-- What is still there lies below a folder of the workspace as before. -/
theorem lies_spare_iff (hfollowed : Followed pool) (htop : top ∈ referring pool w .folder) :
    Lies (spare pool (w :: gone)) top n key ↔ Lies pool top n key ∧ key ∉ w :: gone := by
  obtain ⟨-, -, -, hkind, -⟩ := mem_referring.mp htop
  refine Cascade.lies_spare_iff hfollowed (by simp [hkind]) fun entry hentry ref href hother hmem =>
    ?_
  have hgoes : ref ∈ gone := (List.mem_cons.mp hmem).resolve_left fun h => hother (h ▸ hw)
  by_cases hsame : entry.1 = w
  · exact hsame ▸ List.mem_cons_self
  · exact List.mem_cons_of_mem _
      (hgone.closed entry (mem_without.mpr ⟨hentry, hsame⟩) ref href hgoes)

/-- Of what is still there, the folders and the requests of other workspaces open others. -/
theorem opens_iff (hkey : key.kind ≠ .workspace) :
    (key ∉ w :: gone ∧ followers key.kind ≠ []) ↔ Remains pool w key := by
  have hother : key ≠ w := fun h => hkey (h ▸ hw)
  constructor
  · rintro ⟨hstays, hopens⟩
    cases hkind : key.kind with
    | workspace => exact absurd hkind hkey
    | folder => exact .inl hkind
    | request p =>
      refine .inr ⟨p, hkind, fun hmem => hstays (List.mem_cons_of_mem _ ?_)⟩
      exact hgone.requests p key hmem hother
    | exchange p => simp [hkind, followers] at hopens
  · rintro (hkind | ⟨p, hkind, hmem⟩)
    · exact ⟨hgone.folder_stays hw hkind, by simp [hkind, followers]⟩
    · refine ⟨fun hgoes => hmem ?_, by simp [hkind, followers]⟩
      rcases hgone.kinds key ((List.mem_cons.mp hgoes).resolve_left hother) with
        ⟨-, -, hrefers⟩ | ⟨q, hexchange⟩
      · exact hkind ▸ hrefers
      · rw [hkind] at hexchange
        cases hexchange

/-- The workspace can be deleted if its folders can, once the others are gone. -/
theorem sweep_iff (hhas : has pool w = true) :
    (∃ all, sweep pool [.delete 0 w] = some all) ↔
      ∃ others, sweep (spare pool (w :: gone)) ((referring pool w .folder).map (.delete 1)) =
        some others := by
  have hbehind : Task.behind 0 w = loose.map (.follow 0 w) ++ [.follow 0 w .folder] := by
    rw [Task.behind, hw]
    rfl
  rw [sweep_delete_of_has hhas, List.append_nil, hbehind, sweep_append, hgone.sweep_eq,
    Option.bind_some, spare_without, sweep_follow_of_lt (by decide), List.append_nil,
    hgone.referring_spare hw]
  simp [Option.map_eq_some_iff]

end GoesFirst

/-- A workspace can be deleted exactly if no folder and no request of another workspace is too far
    below the first folder of the workspace that it lies below. -/
theorem sweep_workspace_iff (hpool : Unbranched pool) (hfollowed : Followed pool)
    (hw : w.kind = .workspace) (hhas : has pool w = true) :
    (∃ gone, sweep pool [.delete 0 w] = some gone) ↔
      ∀ before top after, referring pool w .folder = before ++ top :: after →
        ∀ n key, Lies pool top n key → Remains pool w key →
          (∀ other ∈ before, ∀ m, ¬ Lies pool other m key) → 1 + n < greatestLevel := by
  -- the folders are followed last, in what the requests and results have left
  obtain ⟨gone, hgone⟩ := exists_goesFirst (w := w) hfollowed
  have htops : ∀ top ∈ referring pool w .folder, top.kind ≠ .workspace := by
    intro top htop
    obtain ⟨-, -, -, hkind, -⟩ := mem_referring.mp htop
    simp [hkind]
  rw [hgone.sweep_iff hw hhas, sweep_deletes_iff hpool.spare hfollowed.spare htops]
  refine forall_congr' fun before => forall_congr' fun top => forall_congr' fun after => ?_
  refine imp_congr_right fun heq => ?_
  have hlies : ∀ {found}, found ∈ before ++ top :: after → ∀ m key,
      Lies (spare pool (w :: gone)) found m key ↔ Lies pool found m key ∧ key ∉ w :: gone :=
    fun hfound m key => hgone.lies_spare_iff hw hfollowed (heq ▸ hfound)
  have hmem : ∀ found ∈ before, found ∈ before ++ top :: after := fun _ =>
    List.mem_append_left _
  have htop : top ∈ before ++ top :: after := List.mem_append_right _ List.mem_cons_self
  have hkinds : ∀ {n key}, Lies pool top n key → key.kind ≠ .workspace := fun hbelow =>
    hbelow.kind_ne_workspace hfollowed (htops top (heq ▸ htop))
  constructor
  · intro h n key hbelow hkey hnew
    obtain ⟨hstays, hopens⟩ := (hgone.opens_iff hw (hkinds hbelow)).mpr hkey
    refine h n key ((hlies htop n key).mpr ⟨hbelow, hstays⟩) hopens fun found hfound m hbefore => ?_
    exact hnew found hfound m ((hlies (hmem found hfound) m key).mp hbefore).1
  · intro h n key hbelow hopens hnew
    obtain ⟨hbelow, hstays⟩ := (hlies htop n key).mp hbelow
    have hkey := (hgone.opens_iff hw (hkinds hbelow)).mp ⟨hstays, hopens⟩
    refine h n key hbelow hkey fun found hfound m hbefore => ?_
    exact hnew found hfound m ((hlies (hmem found hfound) m key).mpr ⟨hbefore, hstays⟩)

end workspace

end Cascade

namespace Store

variable {s : Store} {key : Key}

/-! ### The entries of the tables -/

/-- Apart from its workspace a record refers to one record at most. -/
theorem eq_of_mem_refs {k : Kind} {row : Row k} {ref next : Key} (href : ref ∈ row.refs)
    (hnext : next ∈ row.refs) (hkind : ref.kind ≠ .workspace) (hkind' : next.kind ≠ .workspace) :
    ref = next := by
  have hfolder : ∀ {id : String} {parent : Option String} {key : Key}, key.kind ≠ .workspace →
      key ∈ (⟨.workspace, id⟩ : Key) :: parent.toList.map (⟨.folder, ·⟩) →
        ∃ found ∈ parent, (⟨.folder, found⟩ : Key) = key := by
    intro id parent key hkey hmem
    rcases List.mem_cons.mp hmem with rfl | hmem
    · exact absurd rfl hkey
    · simpa using hmem
  cases k with
  | workspace => cases href
  | folder | request p =>
    obtain ⟨found, hfound, rfl⟩ := hfolder hkind href
    obtain ⟨other, hother, rfl⟩ := hfolder hkind' hnext
    rw [Option.mem_unique hfound hother]
  | exchange p =>
    simp only [Row.refs, Columns.refs, List.mem_cons, List.not_mem_nil, or_false] at href hnext
    rcases href with rfl | rfl
    · exact absurd rfl hkind
    · rcases hnext with rfl | rfl
      · exact absurd rfl hkind'
      · rfl

theorem Distinct.unbranched (hs : s.Distinct) : Cascade.Unbranched s.entries := by
  intro entry hentry other hother hsame ref href next hnext hkind hkind'
  obtain ⟨k, row, hrow, rfl⟩ := mem_entries_iff.mp hentry
  obtain ⟨l, found, hfound, rfl⟩ := mem_entries_iff.mp hother
  obtain rfl : k = l := congrArg Key.kind hsame
  obtain rfl := hs.eq_of_id hrow hfound (congrArg Key.id hsame)
  exact eq_of_mem_refs href hnext hkind hkind'

theorem has_entries_iff : Cascade.has s.entries key = true ↔ s.holds key = true := by
  obtain ⟨k, id⟩ := key
  rw [Cascade.has_iff, holds_iff]
  constructor
  · rintro ⟨entry, hentry, hkey⟩
    obtain ⟨l, row, hrow, rfl⟩ := mem_entries_iff.mp hentry
    obtain rfl : l = k := congrArg Key.kind hkey
    exact ⟨row, hrow, congrArg Key.id hkey⟩
  · rintro ⟨row, hrow, rfl⟩
    exact ⟨_, mem_entries hrow, rfl⟩

/-- A record depends on another one if the way up from it comes there. -/
theorem depends_iff_lies (hheld : s.holds key = true) {other : Key} :
    s.Depends key other ↔ ∃ n, Cascade.Lies s.entries key n other := by
  constructor
  · intro h
    induction h with
    | self => exact ⟨0, .self (has_entries_iff.mpr hheld)⟩
    | @refers k row ref hrow href _ ih =>
      by_cases hsame : row.key = key
      · exact ⟨0, hsame.symm ▸ .self (has_entries_iff.mpr hheld)⟩
      · obtain ⟨n, hlies⟩ := ih
        exact ⟨n + 1, .refers (mem_entries hrow) hsame href hlies⟩
  · rintro ⟨n, hlies⟩
    induction hlies with
    | self => exact .self
    | refers hentry _ href _ ih =>
      obtain ⟨k, row, hrow, rfl⟩ := mem_entries_iff.mp hentry
      exact .refers hrow href ih

/-- The folders that go with a workspace are found in the order of their table. -/
theorem referring_folder (s : Store) (w : String) :
    Cascade.referring s.entries ⟨.workspace, w⟩ .folder = (s.foldersOf w).map Row.key := by
  let found (entry : Key × List Key) : Bool :=
    entry.1.kind == .folder && entry.2.contains ⟨.workspace, w⟩
  have hothers : ∀ k, k ≠ .folder →
      ((s.rows k).map fun row => (row.key, row.refs)).filter found = [] := by
    intro k hk
    simp [List.filter_eq_nil_iff, found, Row.key, hk]
  have hfolders : ((s.rows .folder).map fun row => (row.key, row.refs)).filter found =
      (s.foldersOf w).map fun row => (row.key, row.refs) := by
    rw [List.filter_map]
    show _ = (s.folders.filter fun f => f.data.workspaceId == w).map _
    congr 1
    refine List.filter_congr fun f _ => ?_
    by_cases h : f.data.workspaceId = w
    · simp [found, Row.key, Row.refs, Columns.refs, h]
    · simp [found, Row.key, Row.refs, Columns.refs, h, Ne.symm h]
  have hall : s.entries.filter found = (s.foldersOf w).map fun row => (row.key, row.refs) := by
    rw [entries, List.filter_flatMap]
    simpa [Kind.all, hothers] using hfolders
  show (s.entries.filter found).map Prod.fst = _
  rw [hall, List.map_map]
  rfl

/-- A deletion of the record would have to open another one inside too many others. Below a folder
    this is a folder or a request that lies too far below. A workspace is left by its folders
    in turn. So for a workspace it is a folder, or a request of another workspace, that lies too
    far below the first folder of the workspace that it lies below. -/
def TooDeep (s : Store) (key : Key) : Prop :=
  match key.kind with
  | .workspace => ∃ before f after, s.foldersOf key.id = before ++ f :: after ∧
      ∃ n other, Cascade.Lies s.entries f.key n other ∧ Cascade.greatestLevel ≤ n + 1 ∧
        (other.kind = .folder ∨ ∃ p, ∃ r ∈ s.rows (.request p), r.key = other ∧
          r.data.workspaceId ≠ key.id) ∧
        ∀ g ∈ before, ¬ s.Depends g.key other
  | .folder => ∃ n other, Cascade.Lies s.entries key n other ∧ Cascade.greatestLevel ≤ n ∧
      (other.kind = .folder ∨ ∃ p, other.kind = .request p)
  | .request _ | .exchange _ => False

/-- A deletion is refused exactly if the tables cannot work it off. -/
theorem erase_eq_error_iff_sweep (hheld : s.holds key = true) :
    s.erase key = .error .tooManyLevels ↔
      ¬ ∃ gone, Cascade.sweep s.entries [.delete 0 key] = some gone := by
  have hsweep : s.sweep key = Cascade.sweep s.entries [.delete 0 key] := by
    rw [Cascade.sweep_delete_of_has (has_entries_iff.mpr hheld), List.append_nil]
    rfl
  unfold erase
  rw [hsweep]
  cases Cascade.sweep s.entries [.delete 0 key] <;> simp

theorem holds_of_lies {top other : Key} {n : Nat} (h : Cascade.Lies s.entries top n other) :
    s.holds other = true := by
  cases h with
  | self hhas => exact has_entries_iff.mp hhas
  | refers hentry => exact has_entries_iff.mp (Cascade.has_iff.mpr ⟨_, hentry, rfl⟩)

/-- A request is left when the requests of a workspace are gone if it is one of another
    workspace. -/
theorem remains_iff (hs : s.Distinct) {w : String} {other : Key} (hheld : s.holds other = true) :
    Cascade.Remains s.entries ⟨.workspace, w⟩ other ↔ other.kind = .folder ∨
      ∃ p, ∃ r ∈ s.rows (.request p), r.key = other ∧ r.data.workspaceId ≠ w := by
  refine or_congr_right (exists_congr fun p => ?_)
  constructor
  · rintro ⟨hkind, hmem⟩
    obtain ⟨k, id⟩ := other
    obtain rfl : k = .request p := hkind
    obtain ⟨r, hr, rfl⟩ := holds_iff.mp hheld
    refine ⟨r, hr, rfl, fun hw => hmem ?_⟩
    exact Cascade.mem_referring.mpr
      ⟨_, mem_entries hr, rfl, rfl, by simp [Row.refs, Columns.refs, hw]⟩
  · rintro ⟨r, hr, rfl, hw⟩
    refine ⟨rfl, fun hmem => hw ?_⟩
    obtain ⟨entry, hentry, hkey, -, href⟩ := Cascade.mem_referring.mp hmem
    obtain ⟨k, found, hfound, rfl⟩ := mem_entries_iff.mp hentry
    obtain rfl : k = .request p := congrArg Key.kind hkey
    obtain rfl := hs.eq_of_id hfound hr (congrArg Key.id hkey)
    simpa [Row.refs, Columns.refs, eq_comm] using href

/-- A record depends on none of some folders of a workspace exactly if it lies below none of
    them. -/
theorem forall_not_lies_iff {w : String} {before : List (Row .folder)} {other : Key}
    (hbefore : ∀ g ∈ before, g ∈ s.foldersOf w) :
    (∀ found ∈ before.map Row.key, ∀ m, ¬ Cascade.Lies s.entries found m other) ↔
      ∀ g ∈ before, ¬ s.Depends g.key other := by
  rw [List.forall_mem_map]
  refine forall₂_congr fun g hg => ?_
  have hstored : s.holds g.key = true := holds_of_mem (List.mem_of_mem_filter (hbefore g hg))
  rw [depends_iff_lies hstored, not_exists]

theorem erase_workspace_eq_error_iff (hs : s.Distinct) {w : String}
    (hheld : s.holds ⟨.workspace, w⟩ = true) :
    s.erase ⟨.workspace, w⟩ = .error .tooManyLevels ↔ s.TooDeep ⟨.workspace, w⟩ := by
  rw [erase_eq_error_iff_sweep hheld, Cascade.sweep_workspace_iff hs.unbranched followed_entries rfl
    (has_entries_iff.mpr hheld), referring_folder]
  constructor
  · intro h
    simp only [not_forall] at h
    obtain ⟨before, top, after, heq, n, other, hlies, hremains, hfirst, hlevel⟩ := h
    obtain ⟨before, rest, hsplit, rfl, hrest⟩ := List.map_eq_append_iff.mp heq
    obtain ⟨f, after, rfl, rfl, rfl⟩ := List.map_eq_cons_iff.mp hrest
    have hbefore : ∀ g ∈ before, g ∈ s.foldersOf w := fun g hg =>
      hsplit ▸ List.mem_append_left _ hg
    exact ⟨before, f, after, hsplit, n, other, hlies, by omega,
      (remains_iff hs (holds_of_lies hlies)).mp hremains, (forall_not_lies_iff hbefore).mp hfirst⟩
  · rintro ⟨before, f, after, hsplit, n, other, hlies, hlevel, hkind, hfirst⟩ h
    have hbefore : ∀ g ∈ before, g ∈ s.foldersOf w := fun g hg =>
      hsplit ▸ List.mem_append_left _ hg
    have hlt := h (before.map Row.key) f.key (after.map Row.key) (by simp [hsplit]) n other hlies
      ((remains_iff hs (holds_of_lies hlies)).mpr hkind) ((forall_not_lies_iff hbefore).mpr hfirst)
    omega

theorem erase_folder_eq_error_iff (hs : s.Distinct) {id : String}
    (hheld : s.holds ⟨.folder, id⟩ = true) :
    s.erase ⟨.folder, id⟩ = .error .tooManyLevels ↔ s.TooDeep ⟨.folder, id⟩ := by
  rw [erase_eq_error_iff_sweep hheld,
    Cascade.sweep_delete_iff 0 hs.unbranched followed_entries (by simp)]
  constructor
  · intro h
    simp only [not_forall] at h
    obtain ⟨n, other, hlies, hopens, hlevel⟩ := h
    refine ⟨n, other, hlies, by omega, ?_⟩
    have hother := hlies.kind_ne_workspace followed_entries (by simp)
    generalize other.kind = k at *
    cases k <;> simp_all [Cascade.followers]
  · rintro ⟨n, other, hlies, hlevel, hkind⟩ h
    have hopens : Cascade.followers other.kind ≠ [] := by
      rcases hkind with hkind | ⟨p, hkind⟩ <;> simp [hkind, Cascade.followers]
    have hlt := h n other hlies hopens
    omega

/-- The deletions that the tables refuse are those that are too deep. -/
theorem erase_eq_error_iff (hs : s.Distinct) (hheld : s.holds key = true) :
    s.erase key = .error .tooManyLevels ↔ s.TooDeep key := by
  obtain ⟨k, id⟩ := key
  cases k with
  | workspace => exact erase_workspace_eq_error_iff hs hheld
  | folder => exact erase_folder_eq_error_iff hs hheld
  | request p =>
    rw [erase_of_request (.inr rfl)]
    simp [TooDeep]
  | exchange p =>
    rw [erase_of_request (.inl rfl)]
    simp [TooDeep]

/-- What depends on a record can be deleted where it is not too deep. -/
theorem erase_of_not_tooDeep (hs : s.Distinct) (hheld : s.holds key = true) (h : ¬ s.TooDeep key) :
    s.erase key = .ok (s.delete key) := by
  cases herase : s.erase key with
  | ok t => rw [eq_delete_of_erase herase]
  | error v =>
    rw [eq_tooManyLevels_of_erase herase] at herase
    exact absurd ((erase_eq_error_iff hs hheld).mp herase) h

/-- A stored record that can be deleted is not too deep. -/
theorem not_tooDeep_of_erase (hs : s.Distinct) (hheld : s.holds key = true)
    (h : (s.erase key).isOk = true) : ¬ s.TooDeep key := by
  rw [← erase_eq_error_iff hs hheld]
  intro herase
  rw [herase] at h
  cases h

end Store

end RequestCatalog
