import RequestCatalog.Proofs.Priority.Following
import RequestCatalog.Proofs.Priority.Increasing

/-! # Inserting behind one anchor again and again

  Each record that is put behind an anchor takes a place in the gap that follows the anchor, and
  the next one finds that gap smaller: what follows the anchor is now the record before it. As long
  as nothing is reported,

  * a new record stands right behind the anchor, and in front of what followed it
    (`Standing.put`);
  * so a run leaves the new records behind the anchor, the newest first (`Standing.run`).

  Behind the last sibling the first place is a step past the anchor, which a great priority
  absorbs. So the first of the new records may have the priority of the anchor, and the others,
  which bisect a gap, may not.
-/

namespace RequestCatalog

namespace Priority

/-- Records put behind an anchor one after another, and what is reported. Each comes last in the
    list, with the place behind the anchor among the records there are by then. -/
def putBehind (anchor : Placed) (records : List Placed) :
    List (Option String) → List Placed × List Notice
  | [] => ([], [])
  | id :: more =>
    let (place, notices) := after anchor records
    let (others, reported) := putBehind anchor (records ++ [⟨id, place⟩]) more
    (⟨id, place⟩ :: others, notices ++ reported)

/-- In order, the anchor stands between these records, and nothing in front of it is taken for
    it. -/
structure Standing (anchor : Placed) (records before rest : List Placed) : Prop where
  sort_eq : sort Placed.priority records = before ++ anchor :: rest
  isNaN_eq_false : ∀ x ∈ records, x.priority.isNaN = false
  id_ne : ∀ x ∈ before, x.id ≠ anchor.id

/-- A place in the gap behind the anchor. It is between the anchor and what follows it, and if
    nothing does, not below the anchor. -/
structure InGap (anchor : Placed) (rest : List Placed) (place : Float) : Prop where
  le : anchor.priority ≤ place
  between : ∀ next ∈ rest.head?, anchor.priority < place ∧ place < next.priority

/-- New records, each of which was put into the gap in front of the one before it. -/
structure Compressed (anchor : Placed) (rest new : List Placed) : Prop where
  decreasing : new.Pairwise fun x y => y.priority < x.priority
  anchor_lt : ∀ x ∈ new.tail, anchor.priority < x.priority
  between : ∀ next ∈ rest.head?, ∀ x ∈ new,
    anchor.priority < x.priority ∧ x.priority < next.priority

section run

variable {anchor : Placed} {records before rest : List Placed}

theorem exists_standing (hids : (records.map Placed.id).Nodup)
    (hnumber : ∀ x ∈ records, x.priority.isNaN = false) (hanchor : anchor ∈ records) :
    ∃ before rest, Standing anchor records before rest := by
  obtain ⟨before, rest, hsplit, hbefore, -⟩ := exists_split_of_mem hids hnumber hanchor
  exact ⟨before, rest, hsplit, hnumber, hbefore⟩

/-- The anchor is one of the records. -/
theorem Standing.anchor_isNaN (h : Standing anchor records before rest) :
    anchor.priority.isNaN = false := by
  have hmem : anchor ∈ sort Placed.priority records := by simp [h.sort_eq]
  exact h.isNaN_eq_false anchor (mem_sort.mp hmem)

/-- If there is nothing to warn of, the place behind the anchor is in the gap. -/
theorem Standing.inGap (h : Standing anchor records before rest)
    (hquiet : ∀ notice ∈ (after anchor records).2, notice.level ≠ .warning) :
    InGap anchor rest (after anchor records).1 := by
  rw [after_of_split h.sort_eq h.id_ne] at hquiet ⊢
  refine ⟨?_, between_of_quiet hquiet⟩
  cases rest with
  | nil => exact le_add_gap h.anchor_isNaN
  | cons next more =>
    have hless := (between_of_quiet hquiet next rfl).1
    obtain ⟨hanchor, hplace⟩ := isNaN_of_lt hless
    exact le_of_lt hanchor hplace hless

/-- A record in the gap stands right behind the anchor. -/
theorem Standing.put (h : Standing anchor records before rest) {new : Placed}
    (hgap : InGap anchor rest new.priority) :
    Standing anchor (records ++ [new]) before (new :: rest) := by
  have hnew := (isNaN_of_le hgap.le).2
  obtain ⟨hlower, hupper⟩ := bounds_of_split h.isNaN_eq_false h.sort_eq hnew hgap.le
    fun next hnext => (hgap.between next hnext).2
  have hsplit : sort Placed.priority records = (before ++ [anchor]) ++ rest := by
    rw [h.sort_eq, List.append_assoc, List.singleton_append]
  refine ⟨?_, fun x hx => ?_, h.id_ne⟩
  · rw [sort_concat h.isNaN_eq_false hnew hsplit hlower hupper, List.append_assoc,
      List.singleton_append]
  · rcases List.mem_append.mp hx with hmem | hlast
    · exact h.isNaN_eq_false x hmem
    · rwa [List.mem_singleton.mp hlast]

theorem Compressed.nil : Compressed anchor rest [] :=
  ⟨.nil, by simp, by simp⟩

/-- The record that was put first is greater than all the others. -/
theorem Compressed.cons {new : Placed} {others : List Placed}
    (h : Compressed anchor (new :: rest) others) (hgap : InGap anchor rest new.priority) :
    Compressed anchor rest (new :: others) where
  decreasing := List.pairwise_cons.mpr
    ⟨fun x hx => (h.between new rfl x hx).2, h.decreasing⟩
  anchor_lt := fun x hx => (h.between new rfl x hx).1
  between := by
    intro next hnext x hx
    rcases List.mem_cons.mp hx with rfl | hmem
    · exact hgap.between next hnext
    · obtain ⟨hanchor, hnew⟩ := h.between new rfl x hmem
      exact ⟨hanchor, lt_trans hnew (hgap.between next hnext).2⟩

/-- A run without a warning leaves its records behind the anchor, the newest first. -/
theorem Standing.run (h : Standing anchor records before rest) {ids : List (Option String)}
    (hquiet : ∀ notice ∈ (putBehind anchor records ids).2, notice.level ≠ .warning) :
    let new := (putBehind anchor records ids).1
    Standing anchor (records ++ new) before (new.reverse ++ rest) ∧ Compressed anchor rest new := by
  -- the next record finds the one before it behind the anchor
  induction ids generalizing records rest with
  | nil => exact ⟨by simpa [putBehind] using h, .nil⟩
  | cons id more ih =>
    have hgap : InGap anchor rest (after anchor records).1 :=
      h.inGap fun notice hmem => hquiet notice (List.mem_append_left _ hmem)
    have hput : Standing anchor (records ++ [⟨id, (after anchor records).1⟩]) before
      (⟨id, (after anchor records).1⟩ :: rest) := h.put hgap
    obtain ⟨hstanding, hcompressed⟩ :=
      ih hput fun notice hmem => hquiet notice (List.mem_append_right _ hmem)
    refine ⟨?_, hcompressed.cons hgap⟩
    simpa [putBehind] using hstanding

end run

theorem map_id_putBehind (anchor : Placed) (records : List Placed) (ids : List (Option String)) :
    (putBehind anchor records ids).1.map Placed.id = ids := by
  induction ids generalizing records with
  | nil => rfl
  | cons id more ih => exact congrArg (id :: ·) (ih _)

/-- A chain of insertions that keeps to the position of one anchor is such a run. -/
theorem insertions_replicate {anchor : Placed} {records : List Placed} {position : ℕ}
    (hposition : records[position]? = some anchor) (n k : ℕ) :
    let chain := insertions n records (List.replicate k position)
    let run := putBehind anchor records ((List.range' n k).map fun i => some ("c" ++ toString i))
    chain.map Insertion.priority = run.1.map Placed.priority ∧
      chain.flatMap Insertion.notices = run.2 := by
  induction k generalizing n records with
  | zero => exact ⟨rfl, rfl⟩
  | succ k ih =>
    -- what is added comes behind the anchor in the list
    have hkeep : ∀ new : Placed, (records ++ [new])[position]? = some anchor := by
      intro new
      obtain ⟨hlt, -⟩ := List.getElem?_eq_some_iff.mp hposition
      rw [List.getElem?_append_left hlt, hposition]
    obtain ⟨hpriorities, hnotices⟩ :=
      ih (hkeep ⟨some ("c" ++ toString n), (after anchor records).1⟩) (n + 1)
    rw [List.replicate_succ, List.range'_succ, List.map_cons]
    unfold insertions putBehind
    rw [hposition]
    exact ⟨congrArg (_ :: ·) hpriorities, congrArg (_ ++ ·) hnotices⟩

/-- As long as nothing is reported, records that are put behind one anchor compress without a
    collision. Their priorities decrease, and all but the first are greater than that of the
    anchor. All are smaller than the priority of the record that followed the anchor, if there was
    one. In order they stand directly behind the anchor, the newest first, and the others stand as
    before. Their identifiers make no difference, since the search meets the anchor first. -/
theorem putBehind_compresses {anchor : Placed} {records : List Placed}
    (hids : (records.map Placed.id).Nodup) (hnumber : ∀ x ∈ records, x.priority.isNaN = false)
    (hanchor : anchor ∈ records) {ids : List (Option String)}
    (hquiet : ∀ notice ∈ (putBehind anchor records ids).2, notice.level ≠ .warning) :
    let new := (putBehind anchor records ids).1
    new.map Placed.id = ids ∧
      new.Pairwise (fun x y => y.priority < x.priority) ∧
      new.Pairwise (fun x y => (x.priority == y.priority) = false) ∧
      (∀ x ∈ new.tail, anchor.priority < x.priority) ∧
      ∃ before rest, sort Placed.priority records = before ++ anchor :: rest ∧
        (∀ next ∈ rest.head?, ∀ x ∈ new, x.priority < next.priority) ∧
        sort Placed.priority (records ++ new) = before ++ anchor :: (new.reverse ++ rest) := by
  intro new
  obtain ⟨before, rest, hstanding⟩ := exists_standing hids hnumber hanchor
  obtain ⟨hgrown, hcompressed⟩ := hstanding.run hquiet
  exact ⟨map_id_putBehind anchor records ids, hcompressed.decreasing,
    hcompressed.decreasing.imp beq_eq_false_of_lt, hcompressed.anchor_lt, before, rest,
    hstanding.sort_eq, fun next hnext x hx => (hcompressed.between next hnext x hx).2,
    hgrown.sort_eq⟩

/-- Three records behind an anchor that has a record behind it, and behind the last one. -/
theorem spread_compresses :
    let middle := putBehind ⟨some "b", 1.0⟩ spread [some "x", some "y", some "z"]
    let last := putBehind ⟨some "a", 3.0⟩ spread [some "x", some "y", some "z"]
    (spread.map Placed.id).Nodup ∧ (∀ x ∈ spread, x.priority.isNaN = false) ∧
      (∀ notice ∈ middle.2 ++ last.2, notice.level ≠ .warning) ∧
      middle.1.map Placed.priority = [1.5, 1.25, 1.125] ∧
      last.1.map Placed.priority = [1003.0, 503.0, 253.0] ∧
      (∃ before rest, sort Placed.priority spread = before ++ ⟨some "b", 1.0⟩ :: rest ∧
        sort Placed.priority (spread ++ middle.1) =
          before ++ ⟨some "b", 1.0⟩ :: (middle.1.reverse ++ rest)) ∧
      ∃ before rest, sort Placed.priority spread = before ++ ⟨some "a", 3.0⟩ :: rest ∧
        sort Placed.priority (spread ++ last.1) =
          before ++ ⟨some "a", 3.0⟩ :: (last.1.reverse ++ rest) := by
  intro middle last
  have hids : (spread.map Placed.id).Nodup := by decide +kernel
  have hnumber : ∀ x ∈ spread, x.priority.isNaN = false := by decide +kernel
  have hquiet : ∀ notice ∈ middle.2 ++ last.2, notice.level ≠ .warning := by decide +kernel
  have hmiddle : (⟨some "b", 1.0⟩ : Placed) ∈ spread := by simp [spread]
  have hlast : (⟨some "a", 3.0⟩ : Placed) ∈ spread := by simp [spread]
  refine ⟨hids, hnumber, hquiet, by decide +kernel, by decide +kernel, ?_, ?_⟩
  · obtain ⟨-, -, -, -, before, rest, hsplit, -, hgrown⟩ := putBehind_compresses hids hnumber
      hmiddle fun notice hmem => hquiet notice (List.mem_append_left _ hmem)
    exact ⟨before, rest, hsplit, hgrown⟩
  · obtain ⟨-, -, -, -, before, rest, hsplit, -, hgrown⟩ := putBehind_compresses hids hnumber
      hlast fun notice hmem => hquiet notice (List.mem_append_right _ hmem)
    exact ⟨before, rest, hsplit, hgrown⟩

/-- A great priority absorbs the step, and then the first record is not greater than its anchor. -/
example : (putBehind ⟨some "a", 1e300⟩ [⟨some "a", 1e300⟩] [some "x"]).1.map Placed.priority =
    [1e300] := by decide +kernel

end Priority

end RequestCatalog
