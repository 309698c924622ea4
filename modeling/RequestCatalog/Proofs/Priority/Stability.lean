import RequestCatalog.Proofs.Priority.Sorting

/-! # The stable order

  Sorting never loses a record, whatever the priorities are. Without NaN there is only one
  way in which records can stand in ascending order with equals as they came
  (`Priority.IsStableOrder`), and sorting finds it (`Priority.isStableOrder_iff`). What
  duplication and listings use of sorting follows from that:

  * sorting and selecting can be exchanged;
  * what is sorted stays as it is;
  * a record that comes last goes right behind the last one that is not greater.

  NaN compares equal to everything, so records whose priorities are all NaN stay as they are.
-/

namespace RequestCatalog

/-! ### One key after another -/

section stable

variable {α β : Type} [LinearOrder β] {key : α → β}

/-- Records of one key leave sorting as they entered it. -/
theorem filter_key_insertionSort (l : List α) (k : β) :
    (l.insertionSort (byKey key)).filter (key · = k) = l.filter (key · = k) := by
  rw [filter_insertionSort]
  apply List.Pairwise.insertionSort_eq
  rw [List.pairwise_filter]
  refine List.pairwise_of_forall fun x y hx hy => ?_
  have hx : key x = k := of_decide_eq_true hx
  have hy : key y = k := of_decide_eq_true hy
  exact (hx.trans hy.symm).le

/-- Lists with the same records of each key have the same records. -/
theorem mem_iff_of_filter_key {l m : List α}
    (hkeys : ∀ k, l.filter (key · = k) = m.filter (key · = k)) (x : α) : x ∈ l ↔ x ∈ m := by
  have hself := congrArg (x ∈ ·) (hkeys (key x))
  simpa using hself

/-- Sorted lists with the same records of each key are equal. -/
theorem eq_of_filter_key {l m : List α} (hl : l.Pairwise (byKey key))
    (hm : m.Pairwise (byKey key))
    (hkeys : ∀ k, l.filter (key · = k) = m.filter (key · = k)) : l = m := by
  induction l generalizing m with
  | nil =>
    cases m with
    | nil => rfl
    | cons y more =>
      have hy := (mem_iff_of_filter_key hkeys y).mpr List.mem_cons_self
      exact absurd hy List.not_mem_nil
  | cons x rest ih =>
    have hx := (mem_iff_of_filter_key hkeys x).mp List.mem_cons_self
    cases m with
    | nil => exact absurd hx List.not_mem_nil
    | cons y more =>
      have hy := (mem_iff_of_filter_key hkeys y).mpr List.mem_cons_self
      obtain ⟨hxrest, hrest⟩ := List.pairwise_cons.mp hl
      obtain ⟨hymore, hmore⟩ := List.pairwise_cons.mp hm
      -- both lists begin with a record of the least key, the first one of that key
      have hleast : key y = key x := by
        apply le_antisymm
        · rcases List.mem_cons.mp hx with heq | hbehind
          · rw [heq]
          · exact hymore x hbehind
        · rcases List.mem_cons.mp hy with heq | hbehind
          · rw [heq]
          · exact hxrest y hbehind
      have hfirst := hkeys (key x)
      rw [List.filter_cons_of_pos (by simp), List.filter_cons_of_pos (by simpa using hleast)]
        at hfirst
      obtain ⟨rfl, -⟩ := List.cons.inj hfirst
      have htails : ∀ k, rest.filter (key · = k) = more.filter (key · = k) := by
        intro k
        have hk := hkeys k
        by_cases hkey : key x = k
        · rw [List.filter_cons_of_pos (by simpa using hkey),
            List.filter_cons_of_pos (by simpa using hkey)] at hk
          exact (List.cons.inj hk).2
        · rwa [List.filter_cons_of_neg (by simpa using hkey),
            List.filter_cons_of_neg (by simpa using hkey)] at hk
      rw [ih hrest hmore htails]

end stable

namespace Priority

variable {α : Type} {priority : α → Float} {l : List α}

/-! ### NaN -/

/-- Records without a number for a priority stay as they are. -/
theorem sort_of_isNaN (hl : ∀ x ∈ l, (priority x).isNaN = true) : sort priority l = l := by
  induction l with
  | nil => rfl
  | cons x rest ih =>
    unfold sort
    rw [ih fun y hy => hl y (List.mem_cons_of_mem x hy)]
    cases rest with
    | nil => rfl
    | cons y more =>
      -- NaN is not smaller than anything
      have hpass : ¬ priority y < priority x := fun hlt =>
        absurd (hl y (by simp)) (Bool.eq_false_iff.mp (isNaN_of_lt hlt).1)
      unfold insert compare
      rw [if_neg hpass]
      split
      · next h => split at h <;> cases h
      · rfl

/-! ### The only stable order -/

/-- Records in ascending order, with equals as they came. -/
structure IsStableOrder (priority : α → Float) (l ordered : List α) : Prop where
  /-- Nothing is lost or doubled. -/
  perm : ordered.Perm l
  /-- What stands behind a record is not smaller. -/
  ascending : ordered.Pairwise fun x y => priority x ≤ priority y
  /-- Records of equal priorities follow each other as they did before. -/
  stable : ∀ x ∈ l,
    ordered.filter (priority · == priority x) = l.filter (priority · == priority x)

section numbers

variable (hl : ∀ x ∈ l, (priority x).isNaN = false)

include hl

/-- Among numbers, the records that equal one are those of its rank. -/
theorem filter_beq_eq {m : List α} (hm : ∀ x ∈ m, x ∈ l) {x : α} (hx : x ∈ l) :
    m.filter (priority · == priority x) =
      m.filter (fun y => rank (priority y) = rank (priority x)) := by
  refine List.filter_congr fun y hy => ?_
  rw [Bool.eq_iff_iff, beq_iff (hl y (hm y hy)) (hl x hx), decide_eq_true_iff]

/-- Sorting leaves records in ascending order, with equals as they came. -/
theorem isStableOrder_sort : IsStableOrder priority l (sort priority l) := by
  refine ⟨perm_sort l, (pairwise_sort hl).imp_of_mem fun {x y} hx hy hrank => ?_,
    fun x hx => ?_⟩
  · exact (le_iff (hl x (mem_sort.mp hx)) (hl y (mem_sort.mp hy))).mpr hrank
  · rw [filter_beq_eq hl (fun _ => mem_sort.mp) hx, filter_beq_eq hl (fun _ => id) hx,
      sort_eq_insertionSort hl]
    exact filter_key_insertionSort l _

/-- There is no other such order. -/
theorem isStableOrder_iff {ordered : List α} :
    IsStableOrder priority l ordered ↔ ordered = sort priority l := by
  constructor
  · intro h
    have hmem : ∀ x ∈ ordered, x ∈ l := fun _ => h.perm.mem_iff.mp
    have hsorted : ordered.Pairwise (byRank priority) := by
      refine h.ascending.imp_of_mem fun {x y} hx hy hle => ?_
      exact (le_iff (hl x (hmem x hx)) (hl y (hmem y hy))).mp hle
    refine eq_of_filter_key hsorted (pairwise_sort hl) fun k => ?_
    by_cases hrank : ∃ x ∈ l, rank (priority x) = k
    · obtain ⟨x, hx, rfl⟩ := hrank
      rw [← filter_beq_eq hl hmem hx, ← filter_beq_eq hl (fun _ => mem_sort.mp) hx, h.stable x hx]
      exact ((isStableOrder_sort hl).stable x hx).symm
    · -- no record has this rank
      have hnone : ∀ x ∈ l, ¬ rank (priority x) = k := fun x hx heq => hrank ⟨x, hx, heq⟩
      rw [List.filter_eq_nil_iff.mpr, List.filter_eq_nil_iff.mpr]
      · intro x hx
        simpa using hnone x (mem_sort.mp hx)
      · intro x hx
        simpa using hnone x (hmem x hx)
  · rintro rfl
    exact isStableOrder_sort hl

/-- What is sorted stays as it is. -/
theorem sort_sort : sort priority (sort priority l) = sort priority l := by
  have hsorted := isStableOrder_sort hl
  refine ((isStableOrder_iff fun x hx => hl x (mem_sort.mp hx)).mp ?_).symm
  exact ⟨.refl _, hsorted.ascending, fun _ _ => rfl⟩

end numbers

/-- Sorting keeps every record. Without NaN it finds the only stable order, so it can be exchanged
    with selecting, leaves what is sorted, and puts a record that comes last right behind the last
    one that is not greater. If every priority is NaN, everything stays in its place. -/
theorem sorts_stably (priority : α → Float) (l : List α) :
    (sort priority l).Perm l ∧
    ((∀ x ∈ l, (priority x).isNaN = false) →
      (∀ ordered, IsStableOrder priority l ordered ↔ ordered = sort priority l) ∧
      (∀ selected : α → Bool,
        (sort priority l).filter selected = sort priority (l.filter selected)) ∧
      sort priority (sort priority l) = sort priority l ∧
      ∀ z, (priority z).isNaN = false → ∃ lower upper, sort priority l = lower ++ upper ∧
        sort priority (l ++ [z]) = lower ++ z :: upper ∧
        (∀ x ∈ lower, priority x ≤ priority z) ∧ ∀ x ∈ upper, priority z < priority x) ∧
    ((∀ x ∈ l, (priority x).isNaN = true) → sort priority l = l) := by
  refine ⟨perm_sort l, fun hl => ⟨fun _ => isStableOrder_iff hl, filter_sort hl, sort_sort hl,
    fun z hz => ?_⟩, sort_of_isNaN⟩
  obtain ⟨lower, upper, hsplit, hlower, hupper⟩ := exists_split_sort hl hz
  exact ⟨lower, upper, hsplit, sort_concat hl hz hsplit hlower hupper, hlower, hupper⟩

/-- Siblings with infinities, both zeros and equals. -/
def mixed : List Placed :=
  [⟨some "a", 2.0⟩, ⟨some "b", 1.0 / 0.0⟩, ⟨some "c", 0.0⟩, ⟨some "d", 2.0⟩, ⟨some "e", -0.0⟩,
    ⟨some "f", -1.0 / 0.0⟩]

/-- Siblings whose priorities are no numbers. -/
def unnumbered : List Placed :=
  [⟨some "b", 0.0 / 0.0⟩, ⟨some "a", 0.0 / 0.0⟩]

theorem mixed_sorted_stably :
    (∀ x ∈ mixed, x.priority.isNaN = false) ∧
      IsStableOrder Placed.priority mixed (sort Placed.priority mixed) ∧
      (sort Placed.priority mixed).map Placed.id =
        [some "f", some "c", some "e", some "a", some "d", some "b"] ∧
      (∃ lower upper, sort Placed.priority mixed = lower ++ upper ∧
        sort Placed.priority (mixed ++ [⟨some "g", 0.0⟩]) = lower ++ ⟨some "g", 0.0⟩ :: upper) ∧
      (∀ x ∈ unnumbered, x.priority.isNaN = true) ∧
      sort Placed.priority unnumbered = unnumbered := by
  have hmixed : ∀ x ∈ mixed, x.priority.isNaN = false := by decide +kernel
  have hunnumbered : ∀ x ∈ unnumbered, x.priority.isNaN = true := by decide +kernel
  obtain ⟨-, hnumbers, -⟩ := sorts_stably Placed.priority mixed
  obtain ⟨horder, -, -, hlast⟩ := hnumbers hmixed
  obtain ⟨lower, upper, hsplit, hput, -⟩ := hlast ⟨some "g", 0.0⟩ (by decide +kernel)
  obtain ⟨-, -, hnan⟩ := sorts_stably Placed.priority unnumbered
  exact ⟨hmixed, (horder _).mpr rfl, by decide +kernel, ⟨lower, upper, hsplit, hput⟩, hunnumbered,
    hnan hunnumbered⟩

end Priority

end RequestCatalog
