import RequestCatalog.Proofs.Priority.Stability

/-! # What follows an anchor

  The place behind an anchor is found by ordering its siblings and looking at the one that comes
  next. Which one that is can be told without any ordering (`Priority.follower?`): the next
  sibling of the same priority that stands behind the anchor in the list, or else the first of
  those with the least greater priority.

  * `Priority.sort_eq_append` puts the ordered siblings together from those below a priority, those
    at it and those beyond it, and `Priority.head?_sort` finds the first of the last part.
  * `Priority.after_eq_of_follower` is the place behind the anchor, and what is reported.
-/

namespace RequestCatalog

/-! ### Below a key, at it and beyond it -/

section stable

variable {α β : Type} [LinearOrder β] {key : α → β}

/-- A sorted list falls into the records below a key, those at it and those beyond it. -/
theorem eq_append_of_pairwise {l : List α} (hl : l.Pairwise (byKey key)) (k : β) :
    l = l.filter (key · < k) ++ (l.filter (key · = k) ++ l.filter (k < key ·)) := by
  induction l with
  | nil => rfl
  | cons x rest ih =>
    obtain ⟨hx, hrest⟩ := List.pairwise_cons.mp hl
    have hsplit := ih hrest
    rcases lt_trichotomy (key x) k with hbelow | hat | hbeyond
    · rw [List.filter_cons_of_pos (by simpa using hbelow),
        List.filter_cons_of_neg (by simpa using hbelow.ne),
        List.filter_cons_of_neg (by simpa using hbelow.le), List.cons_append, ← hsplit]
    · -- nothing is left below the key
      have hnone : rest.filter (key · < k) = [] := by
        rw [List.filter_eq_nil_iff]
        intro y hy
        simpa [← hat, byKey] using hx y hy
      rw [hnone, List.nil_append] at hsplit
      rw [List.filter_cons_of_neg (by simp [hat]), List.filter_cons_of_pos (by simpa using hat),
        List.filter_cons_of_neg (by simp [hat]), hnone, List.nil_append, List.cons_append,
        ← hsplit]
    · -- all that is left is beyond the key
      have hall : ∀ y ∈ x :: rest, k < key y := by
        intro y hy
        rcases List.mem_cons.mp hy with rfl | hmem
        · exact hbeyond
        · exact hbeyond.trans_le (hx y hmem)
      rw [List.filter_eq_nil_iff.mpr fun y hy => by simpa using (hall y hy).le,
        List.filter_eq_nil_iff.mpr fun y hy => by simpa using (hall y hy).ne',
        List.filter_eq_self.mpr fun y hy => by simpa using hall y hy, List.nil_append,
        List.nil_append]

end stable

namespace Priority

section sorting

variable {α : Type} {priority : α → Float} {l : List α}

theorem head?_insert (x : α) (l : List α) : (insert priority x l).head? =
    some (l.head?.elim x fun y => if priority y < priority x then y else x) := by
  cases l with
  | nil => rfl
  | cons y rest =>
    unfold insert compare
    by_cases hpass : priority y < priority x
    · simp [hpass]
    · by_cases hgreater : priority x < priority y
      · simp [hpass, hgreater]
      · simp [hpass, hgreater]

/-- The first of the least records is the same by any measure that compares them alike. -/
theorem minOn?_congr {β γ : Type} [LE β] [DecidableLE β] [LE γ] [DecidableLE γ] {f : α → β}
    {g : α → γ} (h : ∀ x ∈ l, ∀ y ∈ l, f x ≤ f y ↔ g x ≤ g y) : l.minOn? f = l.minOn? g := by
  cases l with
  | nil => rfl
  | cons x rest =>
    show some (rest.foldl (minOn f) x) = some (rest.foldl (minOn g) x)
    congr 1
    induction rest generalizing x with
    | nil => rfl
    | cons y more ih =>
      have hleast : minOn f x y = minOn g x y := by
        unfold minOn
        exact if_congr (h x (by simp) y (by simp)) rfl rfl
      rw [List.foldl_cons, List.foldl_cons, hleast]
      -- the lesser of the first two goes on
      have hkeep : ∀ z ∈ minOn g x y :: more, z ∈ x :: y :: more := by
        intro z hz
        rcases minOn_eq_or (f := g) (x := x) (y := y) with hfirst | hsecond
        · rw [hfirst] at hz
          exact (List.cons_sublist_cons.mpr (List.sublist_cons_self y more)).subset hz
        · rw [hsecond] at hz
          exact List.mem_cons_of_mem x hz
      exact ih _ fun z hz w hw => h z (hkeep z hz) w (hkeep w hw)

variable (hl : ∀ x ∈ l, (priority x).isNaN = false)

include hl

/-- The smaller siblings of a record come first in order, then its equals as they came, and then
    the greater ones in order. -/
theorem sort_eq_append {x : α} (hx : x ∈ l) :
    sort priority l = sort priority (l.filter (priority · < priority x)) ++
      (l.filter (priority · == priority x) ++
        sort priority (l.filter (priority x < priority ·))) := by
  have hmem : ∀ y ∈ sort priority l, (priority y).isNaN = false :=
    fun y hy => hl y (mem_sort.mp hy)
  have hbelow : (sort priority l).filter (fun y => rank (priority y) < rank (priority x)) =
      sort priority (l.filter (priority · < priority x)) := by
    rw [← filter_sort hl]
    refine List.filter_congr fun y hy => ?_
    rw [decide_eq_decide, lt_iff (hmem y hy) (hl x hx)]
  have hat : (sort priority l).filter (fun y => rank (priority y) = rank (priority x)) =
      l.filter (priority · == priority x) := by
    rw [← filter_beq_eq hl (fun _ => mem_sort.mp) hx]
    exact (isStableOrder_sort hl).stable x hx
  have hbeyond : (sort priority l).filter (fun y => rank (priority x) < rank (priority y)) =
      sort priority (l.filter (priority x < priority ·)) := by
    rw [← filter_sort hl]
    refine List.filter_congr fun y hy => ?_
    rw [decide_eq_decide, lt_iff (hl x hx) (hmem y hy)]
  have hsplit := eq_append_of_pairwise (pairwise_sort hl) (rank (priority x))
  rwa [hbelow, hat, hbeyond] at hsplit

/-- Sorting puts the first of the least records in front. -/
theorem head?_sort : (sort priority l).head? = l.minOn? priority := by
  have hrank : ∀ x ∈ l, ∀ y ∈ l,
      priority x ≤ priority y ↔ rank (priority x) ≤ rank (priority y) :=
    fun x hx y hy => le_iff (hl x hx) (hl y hy)
  rw [minOn?_congr hrank]
  clear hrank
  induction l with
  | nil => rfl
  | cons x rest ih =>
    have hrest := ih fun y hy => hl y (List.mem_cons_of_mem x hy)
    unfold sort
    rw [head?_insert, hrest, List.minOn?_cons]
    cases hleast : rest.minOn? fun y => rank (priority y) with
    | none => rfl
    | some y =>
      have hy : y ∈ rest := mem_sort.mp (List.mem_of_head? (hrest.trans hleast))
      have hlt := lt_iff (hl y (List.mem_cons_of_mem x hy)) (hl x List.mem_cons_self)
      simp only [Option.elim_some, minOn, hlt, ← not_le, ite_not]

/-- Records of different priorities have one order, in whatever order they came. -/
theorem sort_congr_of_perm (hdistinct : l.Pairwise fun x y => (priority x == priority y) = false)
    {other : List α} (hperm : other.Perm l) : sort priority other = sort priority l := by
  have hother : ∀ x ∈ other, (priority x).isNaN = false := fun x hx => hl x (hperm.mem_iff.mp hx)
  have hranks : (l.map fun x => rank (priority x)).Nodup := by
    refine List.pairwise_map.mpr (hdistinct.imp_of_mem fun {x y} hx hy hne heq => ?_)
    rw [(beq_iff (hl x hx) (hl y hy)).mpr heq] at hne
    cases hne
  refine List.Perm.eq_of_pairwise (fun x y hx hy hxy hyx => ?_) (pairwise_sort hother)
    (pairwise_sort hl) ((perm_sort other).trans (hperm.trans (perm_sort l).symm))
  exact List.inj_on_of_nodup_map hranks (hperm.mem_iff.mp (mem_sort.mp hx)) (mem_sort.mp hy)
    (le_antisymm hxy hyx)

end sorting

/-! ### The place behind an anchor -/

variable {anchor : Placed} {siblings : List Placed}

/-- The place of a record that goes between an anchor and this sibling, or behind the anchor if
    there is none, and what is to be reported. -/
def placeBefore (anchor : Placed) : Option Placed → Float × List Notice
  | none => (anchor.priority + gap, [])
  | some next =>
    let middle := (anchor.priority + next.priority) / 2.0
    (middle, if anchor.priority < middle ∧ middle < next.priority then []
      else [.noFreePriority anchor.priority next.priority anchor.id])

/-- The search passes what stands in front of the anchor, and what comes next decides. -/
theorem after_of_split {before rest : List Placed}
    (hsplit : sort Placed.priority siblings = before ++ anchor :: rest)
    (hbefore : ∀ x ∈ before, x.id ≠ anchor.id) :
    after anchor siblings = placeBefore anchor rest.head? := by
  have hfound : (sort Placed.priority siblings).dropWhile (·.id != anchor.id) =
      anchor :: rest := by
    rw [hsplit, List.dropWhile_append_of_pos (by simpa using hbefore),
      List.dropWhile_cons_of_neg (by simp)]
  unfold after
  rw [hfound]
  cases rest with
  | nil => rfl
  | cons next more =>
    show (if _ then _ else _) = ((anchor.priority + next.priority) / 2.0, if _ then _ else _)
    split
    · rfl
    · rfl

/-- If there is nothing to warn of, the place lies between the anchor and what it comes before. -/
theorem between_of_quiet {next? : Option Placed}
    (hquiet : ∀ notice ∈ (placeBefore anchor next?).2, notice.level ≠ .warning) :
    ∀ next ∈ next?, anchor.priority < (placeBefore anchor next?).1 ∧
      (placeBefore anchor next?).1 < next.priority := by
  rintro next rfl
  by_contra hgap
  refine hquiet (.noFreePriority anchor.priority next.priority anchor.id) ?_ rfl
  unfold placeBefore at hgap ⊢
  simp [hgap]

/-- The siblings that stand behind the anchor in the list. -/
def standingBehind (anchor : Placed) (siblings : List Placed) : List Placed :=
  (siblings.dropWhile (·.id != anchor.id)).tail

/-- The sibling that the place behind the anchor has to come before: the next one of the same
    priority behind the anchor in the list, or else the first of those with the least greater
    priority. -/
def follower? (anchor : Placed) (siblings : List Placed) : Option Placed :=
  ((standingBehind anchor siblings).find? (·.priority == anchor.priority)).or
    ((siblings.filter (anchor.priority < ·.priority)).minOn? Placed.priority)

/-- The follower, told from what stands behind the anchor. -/
theorem follower?_of_split {front behind : List Placed}
    (hfront : ∀ x ∈ front, x.id ≠ anchor.id) (hsplit : siblings = front ++ anchor :: behind) :
    follower? anchor siblings = (behind.find? (·.priority == anchor.priority)).or
      ((siblings.filter (anchor.priority < ·.priority)).minOn? Placed.priority) := by
  have hbehind : standingBehind anchor siblings = behind := by
    unfold standingBehind
    rw [hsplit, List.dropWhile_append_of_pos (by simpa using hfront),
      List.dropWhile_cons_of_neg (by simp), List.tail_cons]
  unfold follower?
  rw [hbehind]

section distinct

variable (hids : (siblings.map Placed.id).Nodup)
  (hnumber : ∀ x ∈ siblings, x.priority.isNaN = false)

include hids hnumber

/-- In order, the anchor is followed by its equals that stand behind it, and then by the greater
    siblings. -/
theorem exists_split_of_mem (hanchor : anchor ∈ siblings) :
    ∃ before rest, sort Placed.priority siblings = before ++ anchor :: rest ∧
      (∀ x ∈ before, x.id ≠ anchor.id) ∧ rest.head? = follower? anchor siblings := by
  obtain ⟨front, behind, hfront⟩ := List.append_of_mem hanchor
  have hself : (anchor.priority == anchor.priority) = true :=
    (beq_iff (hnumber anchor hanchor) (hnumber anchor hanchor)).mpr rfl
  have hequals : siblings.filter (·.priority == anchor.priority) =
      front.filter (·.priority == anchor.priority) ++
        anchor :: behind.filter (·.priority == anchor.priority) := by
    rw [hfront, List.filter_append, List.filter_cons, if_pos hself]
  have hsplit := sort_eq_append hnumber hanchor
  rw [hequals, List.append_assoc, List.cons_append, ← List.append_assoc] at hsplit
  refine ⟨_, _, hsplit, ?_, ?_⟩
  · have hperm : (sort Placed.priority siblings).Perm siblings := perm_sort siblings
    have hsorted := (hperm.map Placed.id).nodup_iff.mpr hids
    rw [hsplit] at hsorted
    exact key_ne_of_nodup hsorted
  · have hgreater : ∀ x ∈ siblings.filter (anchor.priority < ·.priority),
        x.priority.isNaN = false := fun x hx => hnumber x (List.mem_of_mem_filter hx)
    rw [hfront] at hids
    rw [follower?_of_split (key_ne_of_nodup hids) hfront, List.head?_append, List.head?_filter,
      head?_sort hgreater]

/-- The place behind an anchor is told by its follower in the list, without any ordering: the
    middle of the gap in front of the follower, or one step past the anchor if it has none. What
    is reported is a gap that cannot be split, and nothing else. Among different priorities the
    order of the list makes no difference. -/
theorem after_eq_of_follower (hanchor : anchor ∈ siblings) :
    (∀ next, follower? anchor siblings = some next →
      after anchor siblings =
        let middle := (anchor.priority + next.priority) / 2.0
        (middle, if anchor.priority < middle ∧ middle < next.priority then []
          else [.noFreePriority anchor.priority next.priority anchor.id])) ∧
    (follower? anchor siblings = none →
      after anchor siblings = (anchor.priority + gap, [])) ∧
    ((siblings.Pairwise fun x y => (x.priority == y.priority) = false) →
      ∀ other, other.Perm siblings → after anchor other = after anchor siblings) := by
  obtain ⟨before, rest, hsplit, hbefore, hnext⟩ := exists_split_of_mem hids hnumber hanchor
  have hafter := after_of_split hsplit hbefore
  rw [hnext] at hafter
  refine ⟨fun next hfollower => ?_, fun hfollower => ?_, fun hdistinct other hperm => ?_⟩
  · rw [hafter, hfollower]
    rfl
  · rw [hafter, hfollower]
    rfl
  · unfold after
    rw [sort_congr_of_perm hnumber hdistinct hperm]

end distinct

/-- Siblings of different priorities. -/
def spread : List Placed :=
  [⟨some "a", 3.0⟩, ⟨some "b", 1.0⟩, ⟨some "c", 2.0⟩]

/-- An anchor with an equal behind it, one that nothing follows, and one whose siblings come in any
    order. -/
theorem mixed_places :
    (mixed.map Placed.id).Nodup ∧ (∀ x ∈ mixed, x.priority.isNaN = false) ∧
      follower? ⟨some "a", 2.0⟩ mixed = some ⟨some "d", 2.0⟩ ∧
      after ⟨some "a", 2.0⟩ mixed = (2.0, [.noFreePriority 2.0 2.0 (some "a")]) ∧
      follower? ⟨some "b", 1.0 / 0.0⟩ mixed = none ∧
      after ⟨some "b", 1.0 / 0.0⟩ mixed = (1.0 / 0.0, []) ∧
      ∀ other, other.Perm spread → after ⟨some "b", 1.0⟩ other = (1.5, []) := by
  have hids : (mixed.map Placed.id).Nodup := by decide +kernel
  have hnumber : ∀ x ∈ mixed, x.priority.isNaN = false := by decide +kernel
  have htwin : follower? ⟨some "a", 2.0⟩ mixed = some ⟨some "d", 2.0⟩ := rfl
  have hlast : follower? ⟨some "b", 1.0 / 0.0⟩ mixed = none := rfl
  have hnext : follower? ⟨some "b", 1.0⟩ spread = some ⟨some "c", 2.0⟩ := rfl
  refine ⟨hids, hnumber, htwin, ?_, hlast, ?_, fun other hperm => ?_⟩
  · have hanchor : (⟨some "a", 2.0⟩ : Placed) ∈ mixed := by simp [mixed]
    have hmiddle : (2.0 + 2.0 : Float) / 2.0 = 2.0 := by decide +kernel
    obtain ⟨hplace, -⟩ := after_eq_of_follower hids hnumber hanchor
    rw [hplace _ htwin]
    dsimp only
    rw [hmiddle, if_neg (by decide +kernel)]
  · have hanchor : (⟨some "b", 1.0 / 0.0⟩ : Placed) ∈ mixed := by simp [mixed]
    have hstep : (1.0 / 0.0 : Float) + gap = 1.0 / 0.0 := by decide +kernel
    obtain ⟨-, hplace, -⟩ := after_eq_of_follower hids hnumber hanchor
    rw [hplace hlast]
    dsimp only
    rw [hstep]
  · have hanchor : (⟨some "b", 1.0⟩ : Placed) ∈ spread := by simp [spread]
    have hmiddle : (1.0 + 2.0 : Float) / 2.0 = 1.5 := by decide +kernel
    obtain ⟨hplace, -, hsame⟩ :=
      after_eq_of_follower (by decide +kernel) (by decide +kernel) hanchor
    rw [hsame (by decide +kernel) other hperm, hplace _ hnext]
    dsimp only
    rw [hmiddle, if_pos (by decide +kernel)]

end Priority

end RequestCatalog
