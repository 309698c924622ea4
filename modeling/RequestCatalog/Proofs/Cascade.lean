import RequestCatalog.Proofs.Tables
import RequestCatalog.Store.Cascade

/-! # What a deletion takes and what it leaves

  The rounds of `Cascade.closure` end when no record of the pool is left that
  refers to a taken one. So what is taken is closed: whoever refers to a taken
  record is taken as well. For the store this says that a record which stays
  refers to records which stay.

  No round takes more than it has to. So what goes with a record is the least set
  that is closed in this way, and `Store.Depends` says the same without rounds.

  The tables work task by task. What they set out to do is told by the records that a
  task is for (`Cascade.Task.targets`): whatever is worked off takes these, and whoever
  refers to a record that goes. So where a deletion is not refused, it leaves what the
  rounds leave (`Store.eq_delete_of_erase`).
-/

namespace RequestCatalog

namespace Cascade

variable {taken : List Key} {pool : List (Key × List Key)}

theorem mem_closure_of_mem {key : Key} (h : key ∈ taken) : key ∈ closure taken pool := by
  induction taken, pool using closure.induct with
  | case1 taken pool htouch ih =>
    rw [closure, dif_pos htouch]
    exact ih (List.mem_append_left _ h)
  | case2 taken pool hquiet =>
    rw [closure, dif_neg hquiet]
    exact h

/-- Whoever refers to a taken record is taken. -/
theorem mem_closure_of_touches {entry : Key × List Key} (hmem : entry ∈ pool)
    (h : touches (closure taken pool) entry = true) : entry.1 ∈ closure taken pool := by
  induction taken, pool using closure.induct with
  | case1 taken pool htouch ih =>
    rw [closure, dif_pos htouch] at h ⊢
    by_cases hnow : touches taken entry = true
    · -- this round takes the entry
      apply mem_closure_of_mem
      apply List.mem_append_right
      exact List.mem_map.mpr ⟨entry, List.mem_filter.mpr ⟨hmem, hnow⟩, rfl⟩
    · -- a later one does
      exact ih (List.mem_filter.mpr ⟨hmem, by simpa using hnow⟩) h
  -- no round is left, so nothing of the pool touches what was taken
  | case2 taken pool hquiet =>
    rw [closure, dif_neg hquiet] at h
    exact absurd (List.any_eq_true.mpr ⟨entry, hmem, h⟩) hquiet

/-- Whatever holds of the taken records, and of each record of the pool that refers to one of
    which it holds, holds of all that is taken. -/
theorem closure_induction {P : Key → Prop} (htaken : ∀ key ∈ taken, P key)
    (hpool : ∀ entry ∈ pool, ∀ ref ∈ entry.2, P ref → P entry.1) :
    ∀ key ∈ closure taken pool, P key := by
  induction taken, pool using closure.induct with
  | case1 taken pool htouch ih =>
    rw [closure, dif_pos htouch]
    refine ih (fun key hkey => ?_) fun entry hentry => hpool entry (List.mem_of_mem_filter hentry)
    rcases List.mem_append.mp hkey with hold | hnew
    · exact htaken key hold
    · -- this round took the record because it refers to a taken one
      obtain ⟨entry, hentry, rfl⟩ := List.mem_map.mp hnew
      obtain ⟨hmem, htouches⟩ := List.mem_filter.mp hentry
      obtain ⟨ref, href, hgone⟩ := List.any_eq_true.mp htouches
      exact hpool entry hmem ref href (htaken ref (List.contains_iff_mem.mp hgone))
  | case2 taken pool hquiet =>
    rw [closure, dif_neg hquiet]
    exact htaken

/-! ### Task by task -/

section sweep

variable {key : Key} {tasks rest : List Task} {gone : List Key} {level : Nat} {k : Kind}

theorem has_iff : has pool key = true ↔ ∃ entry ∈ pool, entry.1 = key := by
  simp [has]

theorem mem_without {entry : Key × List Key} :
    entry ∈ without pool key ↔ entry ∈ pool ∧ entry.1 ≠ key := by
  simp [without]

theorem mem_referring {other : Key} :
    other ∈ referring pool key k ↔ ∃ entry ∈ pool, entry.1 = other ∧ other.kind = k ∧
      key ∈ entry.2 := by
  simp only [referring, List.mem_map, List.mem_filter, Bool.and_eq_true, beq_iff_eq,
    List.contains_iff_mem]
  constructor
  · rintro ⟨entry, ⟨hmem, hkind, href⟩, rfl⟩
    exact ⟨entry, hmem, rfl, hkind, href⟩
  · rintro ⟨entry, hmem, rfl, hkind, href⟩
    exact ⟨entry, ⟨hmem, hkind, href⟩, rfl⟩

@[simp] theorem sweep_nil : sweep pool [] = some [] := by
  rw [sweep]

theorem sweep_delete_of_has (h : has pool key = true) :
    sweep pool (.delete level key :: rest) =
      (key :: ·) <$> sweep (without pool key) (Task.behind level key ++ rest) := by
  rw [sweep, dif_pos h]

theorem sweep_delete_of_not_has (h : has pool key = false) :
    sweep pool (.delete level key :: rest) = sweep pool rest := by
  rw [sweep, dif_neg (by simp [h])]

theorem sweep_follow_of_lt (h : level < greatestLevel) :
    sweep pool (.follow level key k :: rest) =
      sweep pool ((referring pool key k).map (.delete (level + 1)) ++ rest) := by
  rw [sweep, if_pos h]

theorem sweep_follow_of_le (h : greatestLevel ≤ level) :
    sweep pool (.follow level key k :: rest) = none := by
  rw [sweep, if_neg (by omega)]

/-- The records of the pool that a task is for. -/
def Task.targets (pool : List (Key × List Key)) : Task → List Key
  | .delete _ key => if has pool key then [key] else []
  | .follow _ key k => referring pool key k

theorem Task.mem_targets_delete {other : Key} :
    other ∈ (Task.delete level key).targets pool ↔ other = key ∧ has pool key = true := by
  simp only [targets]
  split <;> simp_all

/-- A record that leaves the pool takes itself from what a task is for, and nothing else. -/
theorem Task.mem_targets_without_iff {t : Task} {other : Key} :
    other ∈ t.targets (without pool key) ↔ other ∈ t.targets pool ∧ other ≠ key := by
  cases t with
  | delete level found =>
    simp only [mem_targets_delete, has_iff, mem_without]
    constructor
    · rintro ⟨rfl, entry, ⟨hmem, hne⟩, rfl⟩
      exact ⟨⟨rfl, entry, hmem, rfl⟩, hne⟩
    · rintro ⟨⟨rfl, entry, hmem, rfl⟩, hne⟩
      exact ⟨rfl, entry, ⟨hmem, hne⟩, rfl⟩
  | follow level found k =>
    simp only [targets, mem_referring, mem_without]
    constructor
    · rintro ⟨entry, ⟨hmem, hne⟩, rfl, hrest⟩
      exact ⟨⟨entry, hmem, rfl, hrest⟩, hne⟩
    · rintro ⟨⟨entry, hmem, rfl, hrest⟩, hne⟩
      exact ⟨entry, ⟨hmem, hne⟩, rfl, hrest⟩

/-- Whatever holds of the records that the tasks are for, and of each record of the pool that
    refers to one of which it holds, holds of all that goes. -/
theorem sweep_induction {P : Key → Prop} (h : sweep pool tasks = some gone)
    (htasks : ∀ t ∈ tasks, ∀ key ∈ t.targets pool, P key)
    (hpool : ∀ entry ∈ pool, ∀ ref ∈ entry.2, P ref → P entry.1) : ∀ key ∈ gone, P key := by
  induction pool, tasks using sweep.induct generalizing gone with
  | case1 pool =>
    cases sweep_nil.symm.trans h
    simp
  | case2 pool level key rest hhas ih =>
    rw [sweep_delete_of_has hhas] at h
    obtain ⟨others, hothers, rfl⟩ := Option.map_eq_some_iff.mp h
    have hkey : P key := htasks _ (List.mem_cons_self ..) key (by simp [Task.targets, hhas])
    refine List.forall_mem_cons.mpr ⟨hkey, ih hothers ?_ fun entry hentry => ?_⟩
    · intro t ht other hother
      rcases List.mem_append.mp ht with hnew | hold
      -- what the deleted record leaves to be done is for records that refer to it
      · obtain ⟨k, -, rfl⟩ := List.mem_map.mp hnew
        obtain ⟨entry, hentry, rfl, -, href⟩ := mem_referring.mp hother
        exact hpool entry (mem_without.mp hentry).1 key href hkey
      · exact htasks t (List.mem_cons_of_mem _ hold) other
          (Task.mem_targets_without_iff.mp hother).1
    · exact hpool entry (mem_without.mp hentry).1
  | case3 pool level key rest hhas ih =>
    rw [sweep_delete_of_not_has (by simpa using hhas)] at h
    exact ih h (fun t ht => htasks t (List.mem_cons_of_mem _ ht)) hpool
  | case4 pool level key k rest hlevel ih =>
    rw [sweep_follow_of_lt hlevel] at h
    refine ih h (fun t ht other hother => ?_) hpool
    rcases List.mem_append.mp ht with hnew | hold
    · obtain ⟨found, hfound, rfl⟩ := List.mem_map.mp hnew
      refine htasks _ (List.mem_cons_self ..) other ?_
      rcases Task.mem_targets_delete.mp hother with ⟨rfl, -⟩
      exact hfound
    · exact htasks t (List.mem_cons_of_mem _ hold) other hother
  | case5 pool level key k rest hlevel =>
    rw [sweep_follow_of_le (by omega)] at h
    cases h

/-- The pool lists records that are followed: whoever refers to a record is of a kind that is
    looked through when the record goes. -/
def Followed (pool : List (Key × List Key)) : Prop :=
  ∀ entry ∈ pool, ∀ ref ∈ entry.2, entry.1.kind ∈ followers ref.kind

/-- All records that the tasks are for go, and so does whoever refers to a record that goes. -/
theorem sweep_complete (hfollowed : Followed pool) (h : sweep pool tasks = some gone) :
    (∀ t ∈ tasks, ∀ key ∈ t.targets pool, key ∈ gone) ∧
      ∀ entry ∈ pool, ∀ ref ∈ entry.2, ref ∈ gone → entry.1 ∈ gone := by
  induction pool, tasks using sweep.induct generalizing gone with
  | case1 pool =>
    cases sweep_nil.symm.trans h
    simp
  | case2 pool level key rest hhas ih =>
    rw [sweep_delete_of_has hhas] at h
    obtain ⟨others, hothers, rfl⟩ := Option.map_eq_some_iff.mp h
    have hrest : Followed (without pool key) := fun entry hentry =>
      hfollowed entry (mem_without.mp hentry).1
    obtain ⟨htargets, hclosed⟩ := ih hrest hothers
    constructor
    · intro t ht other hother
      by_cases hsame : other = key
      · exact hsame ▸ List.mem_cons_self ..
      · refine List.mem_cons_of_mem _ ?_
        rcases List.mem_cons.mp ht with rfl | hold
        · exact absurd (Task.mem_targets_delete.mp hother).1 hsame
        · exact htargets t (List.mem_append_right _ hold) other
            (Task.mem_targets_without_iff.mpr ⟨hother, hsame⟩)
    · intro entry hentry ref href hgone
      by_cases hsame : entry.1 = key
      · exact hsame ▸ List.mem_cons_self ..
      · have hleft : entry ∈ without pool key := mem_without.mpr ⟨hentry, hsame⟩
        refine List.mem_cons_of_mem _ ?_
        rcases List.mem_cons.mp hgone with rfl | hgone
        -- the record refers to the deleted one, so it is among those that are followed
        · refine htargets (.follow level ref entry.1.kind) ?_ _
            (mem_referring.mpr ⟨entry, hleft, rfl, rfl, href⟩)
          exact List.mem_append_left _ (List.mem_map_of_mem (hfollowed entry hentry ref href))
        · exact hclosed entry hleft ref href hgone
  | case3 pool level key rest hhas ih =>
    rw [sweep_delete_of_not_has (by simpa using hhas)] at h
    obtain ⟨htargets, hclosed⟩ := ih hfollowed h
    refine ⟨fun t ht other hother => ?_, hclosed⟩
    rcases List.mem_cons.mp ht with rfl | hold
    · exact absurd (Task.mem_targets_delete.mp hother).2 hhas
    · exact htargets t hold other hother
  | case4 pool level key k rest hlevel ih =>
    rw [sweep_follow_of_lt hlevel] at h
    obtain ⟨htargets, hclosed⟩ := ih hfollowed h
    refine ⟨fun t ht other hother => ?_, hclosed⟩
    rcases List.mem_cons.mp ht with rfl | hold
    · obtain ⟨entry, hentry, rfl, -, -⟩ := mem_referring.mp hother
      refine htargets (.delete (level + 1) entry.1) ?_ _ ?_
      · exact List.mem_append_left _ (List.mem_map_of_mem hother)
      · exact Task.mem_targets_delete.mpr ⟨rfl, has_iff.mpr ⟨entry, hentry, rfl⟩⟩
    · exact htargets t (List.mem_append_right _ hold) other hother
  | case5 pool level key k rest hlevel =>
    rw [sweep_follow_of_le (by omega)] at h
    cases h

/-- Records that nothing refers to can be deleted at any level. -/
theorem exists_sweep_of_unfollowed {found : List Key} (h : ∀ key ∈ found, followers key.kind = []) :
    ∃ gone, sweep pool (found.map (.delete level)) = some gone := by
  induction found generalizing pool with
  | nil => exact ⟨[], sweep_nil⟩
  | cons key rest ih =>
    obtain ⟨hnone, hrest⟩ := List.forall_mem_cons.mp h
    rw [List.map_cons]
    cases hhas : has pool key with
    | false =>
      rw [sweep_delete_of_not_has hhas]
      exact ih hrest
    | true =>
      obtain ⟨gone, hgone⟩ : ∃ gone, sweep (without pool key) (rest.map (.delete level)) =
          some gone := ih hrest
      rw [sweep_delete_of_has hhas, Task.behind, hnone, List.map_nil, List.nil_append, hgone]
      exact ⟨_, rfl⟩

end sweep

end Cascade

namespace Store

variable {s : Store} {k : Kind} {key : Key}

theorem mem_entries {row : Row k} (h : row ∈ s.rows k) : (row.key, row.refs) ∈ s.entries :=
  List.mem_flatMap.mpr ⟨k, Kind.mem_all k, List.mem_map.mpr ⟨row, h, rfl⟩⟩

/-- A record goes with every record it refers to. -/
theorem key_mem_dependents {row : Row k} {ref : Key} (hrow : row ∈ s.rows k)
    (href : ref ∈ row.refs) (hgone : ref ∈ s.dependents key) : row.key ∈ s.dependents key :=
  Cascade.mem_closure_of_touches (mem_entries hrow)
    (List.any_eq_true.mpr ⟨ref, href, List.contains_iff_mem.mpr hgone⟩)

/-- A record goes with another one: it is that record, or it refers to one that goes. -/
inductive Depends (s : Store) (key : Key) : Key → Prop where
  | self : Depends s key key
  | refers {k : Kind} {row : Row k} {ref : Key} (hrow : row ∈ s.rows k) (href : ref ∈ row.refs)
      (hgoes : Depends s key ref) : Depends s key row.key

/-- What goes with a record is what depends on it. -/
theorem mem_dependents_iff {other : Key} : other ∈ s.dependents key ↔ s.Depends key other := by
  constructor
  · refine Cascade.closure_induction (fun found hfound => ?_)
      (fun entry hentry ref href => ?_) other
    · obtain rfl := List.mem_singleton.mp hfound
      exact .self
    · obtain ⟨l, -, hentry⟩ := List.mem_flatMap.mp hentry
      obtain ⟨row, hrow, rfl⟩ := List.mem_map.mp hentry
      exact .refers hrow href
  · intro h
    induction h with
    | self => exact Cascade.mem_closure_of_mem (List.mem_singleton.mpr rfl)
    | refers hrow href _ ih => exact key_mem_dependents hrow href ih

theorem mem_rows_delete {row : Row k} :
    row ∈ (s.delete key).rows k ↔ row ∈ s.rows k ∧ row.key ∉ s.dependents key := by
  simp [delete]

/-- Each table loses exactly what depends on the deleted record. -/
theorem loses_delete : s.Loses (s.delete key) k fun row => s.Depends key row.key := by
  constructor
  · unfold delete
    rw [rows_keep]
    exact List.filter_sublist
  · intro row hrow
    rw [mem_rows_delete, mem_dependents_iff]
    exact and_iff_right hrow

theorem holds_delete {other : Key} :
    (s.delete key).holds other = true ↔ s.holds other = true ∧ other ∉ s.dependents key := by
  simp [delete, holds_keep]

theorem get?_delete {id : String} (h : ⟨k, id⟩ ∉ s.dependents key) :
    (s.delete key).get? k id = s.get? k id :=
  get?_keep (by simpa using h)

/-- A record that stays refers to records that stay. -/
theorem ref_not_mem_dependents {row : Row k} {ref : Key} (hrow : row ∈ (s.delete key).rows k)
    (href : ref ∈ row.refs) : ref ∉ s.dependents key := by
  obtain ⟨hmem, hstays⟩ := mem_rows_delete.mp hrow
  exact fun hgone => hstays (key_mem_dependents hmem href hgone)

/-! ### Task by task -/

/-- Whoever refers to a record is of a kind that is followed when the record goes. -/
theorem mem_followers {row : Row k} {ref : Key} (href : ref ∈ row.refs) :
    k ∈ Cascade.followers ref.kind := by
  rcases k with _ | _ | p | p
  · simp [Row.refs, Columns.refs] at href
  · simp only [Row.refs, Columns.refs, List.mem_cons, List.mem_map] at href
    rcases href with rfl | ⟨parent, -, rfl⟩ <;> simp [Cascade.followers]
  · simp only [Row.refs, Columns.refs, List.mem_cons, List.mem_map] at href
    rcases href with rfl | ⟨parent, -, rfl⟩ <;> cases p <;> simp [Cascade.followers]
  · simp only [Row.refs, Columns.refs, List.mem_cons, List.not_mem_nil, or_false] at href
    rcases href with rfl | rfl <;> cases p <;> simp [Cascade.followers]

theorem mem_entries_iff {entry : Key × List Key} :
    entry ∈ s.entries ↔ ∃ k, ∃ row ∈ s.rows k, (row.key, row.refs) = entry := by
  simp only [entries, List.mem_flatMap, List.mem_map]
  exact exists_congr fun k => and_iff_right (Kind.mem_all k)

theorem followed_entries : Cascade.Followed s.entries := by
  intro entry hentry ref href
  obtain ⟨k, row, -, rfl⟩ := mem_entries_iff.mp hentry
  exact mem_followers href

/-- What the tables take with a record, where they do not refuse, is what depends on it. -/
theorem mem_sweep_iff {gone : List Key} (h : s.sweep key = some gone) {other : Key} :
    other ∈ gone ↔ s.Depends key other := by
  obtain ⟨others, hothers, rfl⟩ := Option.map_eq_some_iff.mp h
  have hfollowed : Cascade.Followed (Cascade.without s.entries key) := fun entry hentry =>
    followed_entries entry (Cascade.mem_without.mp hentry).1
  constructor
  · intro hother
    rcases List.mem_cons.mp hother with rfl | hother
    · exact .self
    · refine Cascade.sweep_induction (P := s.Depends key) hothers ?_ ?_ other hother
      · intro t ht found hfound
        obtain ⟨l, -, rfl⟩ := List.mem_map.mp ht
        obtain ⟨entry, hentry, rfl, -, href⟩ := Cascade.mem_referring.mp hfound
        obtain ⟨l, row, hrow, rfl⟩ := mem_entries_iff.mp (Cascade.mem_without.mp hentry).1
        exact .refers hrow href .self
      · intro entry hentry ref href hgoes
        obtain ⟨l, row, hrow, rfl⟩ := mem_entries_iff.mp (Cascade.mem_without.mp hentry).1
        exact .refers hrow href hgoes
  · obtain ⟨htargets, hclosed⟩ := Cascade.sweep_complete hfollowed hothers
    intro hgoes
    induction hgoes with
    | self => exact List.mem_cons_self ..
    | @refers l row ref hrow href _ ih =>
      by_cases hsame : row.key = key
      · exact hsame ▸ List.mem_cons_self ..
      · have hentry : (row.key, row.refs) ∈ Cascade.without s.entries key :=
          Cascade.mem_without.mpr ⟨mem_entries hrow, hsame⟩
        refine List.mem_cons_of_mem _ ?_
        rcases List.mem_cons.mp ih with rfl | hgone
        · refine htargets (.follow 0 ref l) (List.mem_map_of_mem (mem_followers href)) _ ?_
          exact Cascade.mem_referring.mpr ⟨_, hentry, rfl, rfl, href⟩
        · exact hclosed _ hentry ref href hgone

/-- Where the tables do not refuse a deletion, they are left without all that depends on the
    record. -/
theorem eq_delete_of_erase {t : Store} (h : s.erase key = .ok t) : t = s.delete key := by
  unfold erase at h
  split at h
  · next gone hsweep =>
    have hsame : ∀ other, gone.contains other = (s.dependents key).contains other := by
      intro other
      rw [Bool.eq_iff_iff, List.contains_iff_mem, List.contains_iff_mem, mem_sweep_iff hsweep,
        mem_dependents_iff]
    cases h
    unfold delete
    simp only [hsame]
  · cases h

/-- What came back from a request can be deleted, since nothing refers to it, and so can the
    request, since nothing else refers to a request. -/
theorem erase_of_request {p : Protocol} (h : key.kind = .exchange p ∨ key.kind = .request p) :
    s.erase key = .ok (s.delete key) := by
  have hsweep : ∃ gone, s.sweep key = some gone := by
    unfold sweep Cascade.Task.behind
    rcases h with hkind | hkind
    · rw [hkind, Cascade.followers, List.map_nil, Cascade.sweep_nil]
      exact ⟨_, rfl⟩
    · rw [hkind, Cascade.followers, List.map_singleton,
        Cascade.sweep_follow_of_lt (by decide), List.append_nil]
      let pool := Cascade.without s.entries key
      have hunfollowed : ∀ other ∈ Cascade.referring pool key (.exchange p),
          Cascade.followers other.kind = [] := by
        intro other hother
        obtain ⟨entry, -, rfl, hkind, -⟩ := Cascade.mem_referring.mp hother
        rw [hkind, Cascade.followers]
      obtain ⟨gone, hgone⟩ : ∃ gone, Cascade.sweep pool
          ((Cascade.referring pool key (.exchange p)).map (.delete (0 + 1))) = some gone :=
        Cascade.exists_sweep_of_unfollowed hunfollowed
      rw [hgone]
      exact ⟨_, rfl⟩
  obtain ⟨gone, hgone⟩ := hsweep
  have herase : s.erase key = .ok (s.keep fun other => !gone.contains other) := by
    unfold erase
    rw [hgone]
  rw [herase, ← eq_delete_of_erase herase]

/-- The store that a deletion leaves, which is as it was where the tables refuse. -/
def erased (s : Store) (key : Key) : Store :=
  match s.erase key with
  | .ok t => t
  | .error _ => s

theorem erased_of_ok {t : Store} (h : s.erase key = .ok t) : s.erased key = t := by
  rw [erased, h]

theorem erased_of_error {v : Violation} (h : s.erase key = .error v) : s.erased key = s := by
  rw [erased, h]

theorem erased_cases (s : Store) (key : Key) :
    s.erased key = s ∨ s.erase key = .ok (s.erased key) ∧ s.erased key = s.delete key := by
  cases h : s.erase key with
  | ok t =>
    rw [erased_of_ok h]
    exact .inr ⟨rfl, eq_delete_of_erase h⟩
  | error v => exact .inl (erased_of_error h)

/-- A deletion is refused for one reason only. -/
theorem eq_tooManyLevels_of_erase {v : Violation} (h : s.erase key = .error v) :
    v = .tooManyLevels := by
  unfold erase at h
  split at h
  · cases h
  · exact (Except.error.inj h).symm

end Store

end RequestCatalog
