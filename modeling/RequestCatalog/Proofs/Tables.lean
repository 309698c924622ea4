import Mathlib.Data.List.Nodup
import RequestCatalog.Store

/-! # Reading the tables back

  What the tables hold after a record was put into them and after records were
  taken out of them. A record is found by its kind and its identifier, so every
  statement here says what `Store.get?`, `Store.holds` and membership come to
  after `Store.put` and `Store.keep`. Nothing later unfolds these operations.

  `Store.Distinct` says that no two records of a kind have the same identifier.
  Only then is a stored record the one that is found under its identifier.
-/

namespace RequestCatalog

namespace Store

variable {s : Store} {k l : Kind} {id : String}

/-! ### Finding records -/

theorem rows_empty (k : Kind) : empty.rows k = [] := by
  rcases k with _ | _ | (_ | _) | (_ | _) <;> rfl

theorem not_mem_rows_empty {row : Row k} : row ∉ empty.rows k := by
  rw [rows_empty]
  exact List.not_mem_nil

theorem holds_iff : s.holds ⟨k, id⟩ = true ↔ ∃ row ∈ s.rows k, row.id = id := by
  simp [holds]

theorem holds_of_mem {row : Row k} (h : row ∈ s.rows k) : s.holds row.key = true :=
  holds_iff.mpr ⟨row, h, rfl⟩

theorem mem_of_get? {row : Row k} (h : s.get? k id = some row) : row ∈ s.rows k :=
  List.mem_of_find?_eq_some h

theorem id_of_get? {row : Row k} (h : s.get? k id = some row) : row.id = id := by
  simpa using List.find?_some h

theorem get?_eq_none_iff : s.get? k id = none ↔ s.holds ⟨k, id⟩ = false := by
  rw [← get?_isSome]
  cases s.get? k id <;> simp

theorem holds_of_get? {row : Row k} (h : s.get? k id = some row) :
    s.holds ⟨k, id⟩ = true := by
  rw [← get?_isSome, h]
  rfl

theorem id_ne_of_not_holds (h : s.holds ⟨k, id⟩ = false) {row : Row k} (hmem : row ∈ s.rows k) :
    row.id ≠ id := by
  intro hid
  rw [holds_iff.mpr ⟨row, hmem, hid⟩] at h
  exact Bool.noConfusion h

theorem get?_of_holds (h : s.holds ⟨k, id⟩ = true) : ∃ row, s.get? k id = some row := by
  rw [← get?_isSome] at h
  exact Option.isSome_iff_exists.mp h

/-- No two records of a kind have the same identifier. -/
def Distinct (s : Store) : Prop :=
  ∀ k, ((s.rows k).map Row.id).Nodup

theorem Distinct.eq_of_id (hs : s.Distinct) {a b : Row k} (ha : a ∈ s.rows k)
    (hb : b ∈ s.rows k) (h : a.id = b.id) : a = b :=
  List.inj_on_of_nodup_map (hs k) ha hb h

/-- A stored record is the one that is found under its identifier. -/
theorem Distinct.get?_of_mem (hs : s.Distinct) {row : Row k} (h : row ∈ s.rows k) :
    s.get? k row.id = some row := by
  obtain ⟨found, hfound⟩ := get?_of_holds (holds_of_mem h)
  have hsame : found = row := hs.eq_of_id (mem_of_get? hfound) h (id_of_get? hfound)
  rw [← hsame] at hfound ⊢
  exact hfound

/-! ### After a record was put into its table -/

section put

variable {row : Row k}

theorem rows_put_of_holds (h : s.holds row.key = true) :
    (s.put row).rows k = (s.rows k).map fun old => if old.id == row.id then row else old := by
  simp [put, h]

theorem rows_put_of_not_holds (h : s.holds row.key = false) :
    (s.put row).rows k = s.rows k ++ [row] := by
  simp [put, h]

theorem rows_put_ne (h : l ≠ k) : (s.put row).rows l = s.rows l := by
  unfold put
  split
  · exact rows_setRows_ne s h _
  · exact rows_setRows_ne s h _

/-- The table holds the new record, and every other one that it held before. -/
theorem mem_rows_put {x : Row k} :
    x ∈ (s.put row).rows k ↔ x = row ∨ (x ∈ s.rows k ∧ x.id ≠ row.id) := by
  cases hold : s.holds row.key with
  -- the new record takes the place of the old one
  | true =>
    rw [rows_put_of_holds hold, List.mem_map]
    constructor
    · rintro ⟨old, hmem, rfl⟩
      by_cases hid : old.id = row.id
      · left; simp [hid]
      · right; simp [hid, hmem]
    · rintro (rfl | ⟨hmem, hid⟩)
      · obtain ⟨old, hmem, hid⟩ := holds_iff.mp hold
        exact ⟨old, hmem, by simp [hid]⟩
      · exact ⟨x, hmem, by simp [hid]⟩
  -- the new record comes last
  | false =>
    rw [rows_put_of_not_holds hold, List.mem_append, List.mem_singleton]
    constructor
    · rintro (hmem | rfl)
      · exact .inr ⟨hmem, id_ne_of_not_holds hold hmem⟩
      · exact .inl rfl
    · rintro (rfl | ⟨hmem, -⟩)
      · exact .inr rfl
      · exact .inl hmem

/-- A record of any table is the new one or was there before. -/
theorem mem_rows_put_cases {x : Row l} (h : x ∈ (s.put row).rows l) :
    x ∈ s.rows l ∨ (⟨l, x⟩ : (k : Kind) × Row k) = ⟨k, row⟩ := by
  by_cases hl : l = k
  · subst hl
    rcases mem_rows_put.mp h with rfl | ⟨hmem, -⟩
    · exact .inr rfl
    · exact .inl hmem
  · rw [rows_put_ne hl] at h
    exact .inl h

theorem holds_put {key : Key} :
    (s.put row).holds key = true ↔ key = row.key ∨ s.holds key = true := by
  obtain ⟨l, id⟩ := key
  by_cases hl : l = k
  · subst hl
    simp only [holds_iff, mem_rows_put, Row.key, Key.mk.injEq, true_and]
    constructor
    · rintro ⟨x, rfl | ⟨hmem, -⟩, hid⟩
      · exact .inl hid.symm
      · exact .inr ⟨x, hmem, hid⟩
    · rintro (hid | ⟨x, hmem, hid⟩)
      · exact ⟨row, .inl rfl, hid.symm⟩
      · by_cases hrow : x.id = row.id
        · exact ⟨row, .inl rfl, hrow.symm.trans hid⟩
        · exact ⟨x, .inr ⟨hmem, hrow⟩, hid⟩
  · have hkey : (⟨l, id⟩ : Key) ≠ row.key := fun h => hl (congrArg Key.kind h)
    simp [holds, rows_put_ne hl, hkey]

theorem get?_put_self : (s.put row).get? k row.id = some row := by
  obtain ⟨found, hfound⟩ := get?_of_holds (holds_put.mpr (.inl rfl) : (s.put row).holds row.key)
  rcases mem_rows_put.mp (mem_of_get? hfound) with rfl | ⟨-, hid⟩
  · exact hfound
  · exact absurd (id_of_get? hfound) hid

theorem get?_put_ne (h : (⟨l, id⟩ : Key) ≠ row.key) :
    (s.put row).get? l id = s.get? l id := by
  by_cases hl : l = k
  · subst hl
    have hid : row.id ≠ id := fun heq => h (by rw [← heq]; rfl)
    cases hold : s.holds row.key with
    | false => simp [get?, rows_put_of_not_holds hold, hid]
    | true =>
      simp only [get?, rows_put_of_holds hold, List.find?_map]
      -- the one row that is replaced is not the one looked for, before or after
      have hsame : ((fun x : Row l => x.id == id) ∘
          fun old => if old.id == row.id then row else old) = fun x => x.id == id := by
        funext old
        by_cases hold : old.id = row.id
        · simp [hold]
        · simp [hold]
      rw [hsame]
      cases hfind : (s.rows l).find? (fun x => x.id == id) with
      | none => rfl
      | some found =>
        have hfound : found.id = id := by simpa using List.find?_some hfind
        have hne : found.id ≠ row.id := fun heq => hid (heq.symm.trans hfound)
        simp [hne]
  · simp [get?, rows_put_ne hl]

/-- A record that is replaced keeps its identifier. -/
theorem ids_put_of_holds (h : s.holds row.key = true) :
    ((s.put row).rows k).map Row.id = (s.rows k).map Row.id := by
  rw [rows_put_of_holds h, List.map_map]
  refine List.map_congr_left fun old _ => ?_
  by_cases hid : old.id = row.id <;> simp [hid]

theorem Distinct.put (hs : s.Distinct) : (s.put row).Distinct := by
  intro l
  by_cases hl : l = k
  · subst hl
    cases hold : s.holds row.key with
    | true =>
      rw [ids_put_of_holds hold]
      exact hs l
    | false =>
      rw [rows_put_of_not_holds hold, List.map_append, List.nodup_append]
      refine ⟨hs l, by simp, ?_⟩
      intro a ha b hb
      obtain ⟨x, hx, rfl⟩ := List.mem_map.mp ha
      obtain rfl : b = row.id := by simpa using hb
      exact id_ne_of_not_holds hold hx
  · rw [rows_put_ne hl]
    exact hs l

end put

/-! ### After records were taken out -/

/-- On the way from one store to the other, the table loses exactly the records that are gone. All
    others stay as they are, in their order. -/
def Loses (s t : Store) (k : Kind) (gone : Row k → Prop) : Prop :=
  (t.rows k).Sublist (s.rows k) ∧ ∀ row ∈ s.rows k, row ∈ t.rows k ↔ ¬ gone row

theorem Loses.congr {t : Store} {gone gone' : Row k → Prop} (h : s.Loses t k gone)
    (hsame : ∀ row ∈ s.rows k, gone row ↔ gone' row) : s.Loses t k gone' :=
  ⟨h.1, fun row hrow => (h.2 row hrow).trans (not_congr (hsame row hrow))⟩

section keep

variable {condition : Key → Bool}

theorem mem_rows_keep {x : Row k} :
    x ∈ (s.keep condition).rows k ↔ x ∈ s.rows k ∧ condition x.key = true := by
  rw [rows_keep, List.mem_filter]

theorem holds_keep {key : Key} :
    (s.keep condition).holds key = true ↔ s.holds key = true ∧ condition key = true := by
  obtain ⟨k, id⟩ := key
  simp only [holds_iff, mem_rows_keep]
  constructor
  · rintro ⟨x, ⟨hmem, hcond⟩, rfl⟩
    exact ⟨⟨x, hmem, rfl⟩, hcond⟩
  · rintro ⟨⟨x, hmem, rfl⟩, hcond⟩
    exact ⟨x, ⟨hmem, hcond⟩, rfl⟩

/-- A record that stays is found as before. -/
theorem get?_keep (h : condition ⟨k, id⟩ = true) : (s.keep condition).get? k id = s.get? k id := by
  simp only [get?, rows_keep, List.find?_filter]
  congr 1
  funext x
  by_cases hid : x.id = id
  · have hkey : x.key = ⟨k, id⟩ := by rw [← hid]; rfl
    simp [hid, hkey, h]
  · simp [hid]

theorem Distinct.keep (hs : s.Distinct) : (s.keep condition).Distinct := by
  intro k
  rw [rows_keep]
  exact (hs k).sublist (List.filter_sublist.map _)

end keep

end Store

end RequestCatalog
