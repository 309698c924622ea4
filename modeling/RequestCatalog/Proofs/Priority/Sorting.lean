import Mathlib.Data.List.Sort
import RequestCatalog.Proofs.Priority.Order

/-! # Siblings in order

  The order of siblings is a stable insertion sort. As long as no priority is NaN it
  sorts by rank, and then three facts say what happens when a record is added:

  * sorting and selecting records can be exchanged;
  * a record that comes last in the table goes behind every sibling that is not
    greater, and in front of the others;
  * what stands in front of it is not greater, and what stands behind it is.
-/

namespace RequestCatalog

/-- What stands in front of a record has other keys, if all keys are different. -/
theorem key_ne_of_nodup {α β : Type} {key : α → β} {before rest : List α} {x : α}
    (hkeys : ((before ++ x :: rest).map key).Nodup) : ∀ y ∈ before, key y ≠ key x := by
  intro y hy
  rw [List.map_append, List.nodup_append] at hkeys
  exact hkeys.2.2 (key y) (List.mem_map_of_mem hy) (key x) (by simp)

/-! ### Stable insertion -/

section stable

variable {α β : Type} [LinearOrder β] (key : α → β)

/-- The order by key, which does not tell records of the same key apart. -/
def byKey (x y : α) : Prop := key x ≤ key y

instance : DecidableRel (byKey key) := fun x y => inferInstanceAs (Decidable (key x ≤ key y))

instance : Std.Total (byKey key) := ⟨fun x y => le_total (key x) (key y)⟩

instance : IsTrans α (byKey key) := ⟨fun _ _ _ => le_trans⟩

/-- A record goes behind all records at the front that are not greater. -/
def insertAfter (z : α) (l : List α) : List α :=
  l.takeWhile (byKey key · z) ++ z :: l.dropWhile (byKey key · z)

variable {key}

theorem insertAfter_cons_of_le {y z : α} (l : List α) (h : byKey key y z) :
    insertAfter key z (y :: l) = y :: insertAfter key z l := by
  simp [insertAfter, h]

theorem insertAfter_cons_of_not_le {y z : α} (l : List α) (h : ¬ byKey key y z) :
    insertAfter key z (y :: l) = z :: y :: l := by
  simp [insertAfter, h]

/-- Inserting a record in front of its equals and another one behind its equals can be
    exchanged. -/
theorem orderedInsert_insertAfter (x z : α) (l : List α) :
    (insertAfter key z l).orderedInsert (byKey key) x =
      insertAfter key z (l.orderedInsert (byKey key) x) := by
  induction l with
  | nil =>
    by_cases hxz : byKey key x z
    · simp [insertAfter, hxz]
    · simp [insertAfter, hxz]
  | cons y rest ih =>
    by_cases hyz : byKey key y z
    · rw [insertAfter_cons_of_le rest hyz]
      by_cases hxy : byKey key x y
      · have hxz : byKey key x z := le_trans hxy hyz
        -- `x` goes to the front and `z` behind `y`, so they do not meet
        rw [List.orderedInsert_cons_of_le _ _ hxy, List.orderedInsert_cons_of_le _ _ hxy,
          insertAfter_cons_of_le _ hxz, insertAfter_cons_of_le _ hyz]
      · rw [List.orderedInsert_of_not_le _ _ hxy, List.orderedInsert_of_not_le _ _ hxy,
          insertAfter_cons_of_le _ hyz, ih]
    · rw [insertAfter_cons_of_not_le rest hyz]
      by_cases hxy : byKey key x y
      · rw [List.orderedInsert_cons_of_le _ rest hxy]
        by_cases hxz : byKey key x z
        · rw [List.orderedInsert_cons_of_le _ _ hxz, insertAfter_cons_of_le _ hxz,
            insertAfter_cons_of_not_le _ hyz]
        · rw [List.orderedInsert_of_not_le _ _ hxz, List.orderedInsert_cons_of_le _ _ hxy,
            insertAfter_cons_of_not_le _ hxz]
      · -- the new records stand on different sides of `y`
        have hxz : ¬ byKey key x z := fun h =>
          hxy (le_trans h (le_of_lt (not_le.mp hyz)))
        rw [List.orderedInsert_of_not_le _ _ hxz, List.orderedInsert_of_not_le _ _ hxy,
          insertAfter_cons_of_not_le _ hyz]

/-- The last record of a table goes behind its equals. -/
theorem insertionSort_concat (l : List α) (z : α) :
    (l ++ [z]).insertionSort (byKey key) = insertAfter key z (l.insertionSort (byKey key)) := by
  induction l with
  | nil => rfl
  | cons x rest ih =>
    rw [List.cons_append, List.insertionSort_cons, ih, orderedInsert_insertAfter,
      List.insertionSort_cons]

/-- Selecting from a sorted list that a record was inserted into. -/
theorem filter_orderedInsert {l : List α} (hl : l.Pairwise (byKey key)) (q : α → Bool) (x : α) :
    (l.orderedInsert (byKey key) x).filter q =
      if q x then (l.filter q).orderedInsert (byKey key) x else l.filter q := by
  induction l with
  | nil => cases hq : q x <;> simp [hq]
  | cons y rest ih =>
    obtain ⟨hy, hrest⟩ := List.pairwise_cons.mp hl
    by_cases hxy : byKey key x y
    · rw [List.orderedInsert_cons_of_le _ rest hxy, List.filter_cons]
      -- all that is left of the list is not smaller than `x`
      have hle : ∀ b ∈ (y :: rest).filter q, byKey key x b := by
        intro b hb
        rcases List.mem_cons.mp (List.mem_of_mem_filter hb) with rfl | hmem
        · exact hxy
        · exact le_trans hxy (hy b hmem)
      split
      · generalize (y :: rest).filter q = left at hle
        cases left with
        | nil => rfl
        | cons b more => rw [List.orderedInsert_cons_of_le _ more (hle b List.mem_cons_self)]
      · rfl
    · rw [List.orderedInsert_of_not_le _ rest hxy, List.filter_cons, List.filter_cons, ih hrest]
      cases q y <;> cases q x <;> simp [hxy]

/-- Sorting and selecting can be exchanged. -/
theorem filter_insertionSort (q : α → Bool) (l : List α) :
    (l.insertionSort (byKey key)).filter q = (l.filter q).insertionSort (byKey key) := by
  induction l with
  | nil => rfl
  | cons x rest ih =>
    rw [List.insertionSort_cons,
      filter_orderedInsert (List.pairwise_insertionSort (byKey key) rest), ih, List.filter_cons]
    cases q x <;> rfl

/-- A record goes between those that are not greater and those that are. -/
theorem insertAfter_append {lower upper : List α} {z : α} (hlower : ∀ x ∈ lower, key x ≤ key z)
    (hupper : ∀ x ∈ upper, key z < key x) :
    insertAfter key z (lower ++ upper) = lower ++ z :: upper := by
  induction lower with
  | nil =>
    cases upper with
    | nil => rfl
    | cons y rest =>
    exact insertAfter_cons_of_not_le rest (not_le.mpr (hupper y List.mem_cons_self))
  | cons y rest ih =>
    have hrest := ih fun x hx => hlower x (List.mem_cons_of_mem y hx)
    rw [List.cons_append, insertAfter_cons_of_le _ (hlower y List.mem_cons_self), hrest,
      List.cons_append]

/-- A sorted list falls into the records up to a bound and those beyond it. -/
theorem exists_split_of_pairwise {l : List α} (hl : l.Pairwise (byKey key)) (bound : β) :
    ∃ lower upper, l = lower ++ upper ∧ (∀ x ∈ lower, key x ≤ bound) ∧
      (∀ x ∈ upper, bound < key x) := by
  induction l with
  | nil => exact ⟨[], [], rfl, by simp, by simp⟩
  | cons y rest ih =>
    obtain ⟨hy, hrest⟩ := List.pairwise_cons.mp hl
    by_cases hbound : key y ≤ bound
    · obtain ⟨lower, upper, hsplit, hlower, hupper⟩ := ih hrest
      refine ⟨y :: lower, upper, by rw [hsplit, List.cons_append], fun x hx => ?_, hupper⟩
      rcases List.mem_cons.mp hx with rfl | hmem
      · exact hbound
      · exact hlower x hmem
    · refine ⟨[], y :: rest, rfl, by simp, fun x hx => ?_⟩
      have hbeyond : bound < key y := not_le.mp hbound
      rcases List.mem_cons.mp hx with rfl | hmem
      · exact hbeyond
      · exact lt_of_lt_of_le hbeyond (hy x hmem)

end stable

/-! ### Sorting by priority -/

namespace Priority

variable {α : Type} {priority : α → Float}

/-- The order of records by the ranks of their priorities. -/
abbrev byRank (priority : α → Float) : α → α → Prop :=
  byKey fun x => rank (priority x)

theorem insert_eq_orderedInsert {x : α} {l : List α} (hx : (priority x).isNaN = false)
    (hl : ∀ y ∈ l, (priority y).isNaN = false) :
    insert priority x l = l.orderedInsert (byRank priority) x := by
  induction l with
  | nil => rfl
  | cons y rest ih =>
    have hy := hl y List.mem_cons_self
    -- insertion passes exactly the records that are smaller
    have hlt : priority y < priority x ↔ ¬ byRank priority x y := by
      rw [lt_iff hy hx]
      exact not_le.symm
    have hrest := ih fun z hz => hl z (List.mem_cons_of_mem y hz)
    unfold insert compare
    by_cases hxy : byRank priority x y
    · rw [List.orderedInsert_cons_of_le _ rest hxy, if_neg (fun h => hlt.mp h hxy)]
      by_cases hgt : priority x < priority y
      · rw [if_pos hgt]
      · rw [if_neg hgt]
    · rw [List.orderedInsert_of_not_le _ rest hxy, if_pos (hlt.mpr hxy), hrest]

/-- Without NaN, sorting by priority is sorting by rank. -/
theorem sort_eq_insertionSort {l : List α} (hl : ∀ x ∈ l, (priority x).isNaN = false) :
    sort priority l = l.insertionSort (byRank priority) := by
  induction l with
  | nil => rfl
  | cons x rest ih =>
    have hrest : ∀ y ∈ rest, (priority y).isNaN = false :=
      fun y hy => hl y (List.mem_cons_of_mem x hy)
    unfold sort
    rw [ih hrest, insert_eq_orderedInsert (hl x List.mem_cons_self)]
    · rfl
    · intro y hy
      exact hrest y ((List.mem_insertionSort (byRank priority)).mp hy)

theorem insert_map {β : Type} (f : β → α) (x : β) (l : List β) :
    insert priority (f x) (l.map f) = (insert (fun x => priority (f x)) x l).map f := by
  induction l with
  | nil => rfl
  | cons y rest ih =>
    simp only [List.map_cons, insert]
    cases compare (priority (f y)) (priority (f x)) with
    | lt => simp [ih]
    | eq => rfl
    | gt => rfl

/-- Sorting looks at priorities only. -/
theorem sort_map {β : Type} (f : β → α) (l : List β) :
    sort priority (l.map f) = (sort (fun x => priority (f x)) l).map f := by
  induction l with
  | nil => rfl
  | cons x rest ih =>
    simp only [List.map_cons, sort]
    rw [ih, insert_map]

/-! ### Nothing is lost -/

/-- Insertion adds the record and nothing else, whatever the comparison says. -/
theorem perm_insert (x : α) (l : List α) : (insert priority x l).Perm (x :: l) := by
  induction l with
  | nil => exact .refl _
  | cons y rest ih =>
    unfold insert
    cases compare (priority y) (priority x) with
    | lt => exact (ih.cons y).trans (.swap x y rest)
    | eq => exact .refl _
    | gt => exact .refl _

/-- Sorting keeps every record exactly once, also those whose priority is NaN. -/
theorem perm_sort (l : List α) : (sort priority l).Perm l := by
  induction l with
  | nil => exact .refl _
  | cons x rest ih => exact (perm_insert x _).trans (ih.cons x)

theorem mem_sort {x : α} {l : List α} : x ∈ sort priority l ↔ x ∈ l :=
  (perm_sort l).mem_iff

/-! ### Adding a record -/

section adding

variable {l : List α} {z : α}

/-- Sorted records are in ascending order. -/
theorem pairwise_sort (hl : ∀ x ∈ l, (priority x).isNaN = false) :
    (sort priority l).Pairwise fun x y => rank (priority x) ≤ rank (priority y) := by
  rw [sort_eq_insertionSort hl]
  exact List.pairwise_insertionSort _ l

/-- Sorting and selecting can be exchanged. -/
theorem filter_sort (hl : ∀ x ∈ l, (priority x).isNaN = false) (q : α → Bool) :
    (sort priority l).filter q = sort priority (l.filter q) := by
  rw [sort_eq_insertionSort hl, filter_insertionSort, sort_eq_insertionSort]
  intro x hx
  exact hl x (List.mem_of_mem_filter hx)

/-- The records up to a priority, and then those beyond it. -/
theorem exists_split_sort (hl : ∀ x ∈ l, (priority x).isNaN = false) {bound : Float}
    (hbound : bound.isNaN = false) :
    ∃ lower upper, sort priority l = lower ++ upper ∧ (∀ x ∈ lower, priority x ≤ bound) ∧
      (∀ x ∈ upper, bound < priority x) := by
  obtain ⟨lower, upper, hsplit, hlower, hupper⟩ :=
    exists_split_of_pairwise (pairwise_sort hl) (rank bound)
  have hnumber : ∀ x ∈ lower ++ upper, (priority x).isNaN = false := by
    intro x hx
    rw [← hsplit] at hx
    exact hl x (mem_sort.mp hx)
  refine ⟨lower, upper, hsplit, fun x hx => ?_, fun x hx => ?_⟩
  · exact (le_iff (hnumber x (List.mem_append_left _ hx)) hbound).mpr (hlower x hx)
  · exact (lt_iff hbound (hnumber x (List.mem_append_right _ hx))).mpr (hupper x hx)

/-- A record that comes last goes between those that are not greater and those that are. -/
theorem sort_concat (hl : ∀ x ∈ l, (priority x).isNaN = false) (hz : (priority z).isNaN = false)
    {lower upper : List α} (hsplit : sort priority l = lower ++ upper)
    (hlower : ∀ x ∈ lower, priority x ≤ priority z)
    (hupper : ∀ x ∈ upper, priority z < priority x) :
    sort priority (l ++ [z]) = lower ++ z :: upper := by
  have hnumber : ∀ x ∈ lower ++ upper, (priority x).isNaN = false := by
    intro x hx
    rw [← hsplit] at hx
    exact hl x (mem_sort.mp hx)
  have hall : ∀ x ∈ l ++ [z], (priority x).isNaN = false := by
    intro x hx
    rcases List.mem_append.mp hx with hmem | hlast
    · exact hl x hmem
    · rwa [List.mem_singleton.mp hlast]
  rw [sort_eq_insertionSort hall, insertionSort_concat, ← sort_eq_insertionSort hl, hsplit]
  apply insertAfter_append
  · intro x hx
    exact (le_iff (hnumber x (List.mem_append_left _ hx)) hz).mp (hlower x hx)
  · intro x hx
    exact (lt_iff hz (hnumber x (List.mem_append_right _ hx))).mp (hupper x hx)

/-- What lies in the gap behind a record is not smaller than the records up to that one, and smaller
    than those beyond it. -/
theorem bounds_of_split (hl : ∀ x ∈ l, (priority x).isNaN = false) {before rest : List α} {x : α}
    (hsplit : sort priority l = before ++ x :: rest) {bound : Float} (hbound : bound.isNaN = false)
    (hle : priority x ≤ bound) (hnext : ∀ next ∈ rest.head?, bound < priority next) :
    (∀ y ∈ before ++ [x], priority y ≤ bound) ∧ ∀ y ∈ rest, bound < priority y := by
  have hnumber : ∀ y ∈ before ++ x :: rest, (priority y).isNaN = false := by
    intro y hy
    rw [← hsplit] at hy
    exact hl y (mem_sort.mp hy)
  have hsorted := pairwise_sort hl
  rw [hsplit] at hsorted
  obtain ⟨-, hbehind, hcross⟩ := List.pairwise_append.mp hsorted
  constructor
  · intro y hy
    rcases List.mem_append.mp hy with hmem | hlast
    · -- what stands in front is not greater than the record
      have hx := (le_iff (hnumber x (by simp)) hbound).mp hle
      exact (le_iff (hnumber y (List.mem_append_left _ hmem)) hbound).mpr
        ((hcross y hmem x List.mem_cons_self).trans hx)
    · rwa [List.mem_singleton.mp hlast]
  · intro y hy
    cases rest with
    | nil => cases hy
    | cons next more =>
      -- what stands behind is not smaller than the next one
      have hless := (lt_iff hbound (hnumber next (by simp))).mp (hnext next rfl)
      refine (lt_iff hbound (hnumber y (by simp [hy]))).mpr (hless.trans_le ?_)
      rcases List.mem_cons.mp hy with rfl | hmem
      · exact le_rfl
      · exact (List.pairwise_cons.mp (List.pairwise_cons.mp hbehind).2).1 y hmem

end adding

end Priority

end RequestCatalog
