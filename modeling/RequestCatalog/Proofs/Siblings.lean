import RequestCatalog.Proofs.Priority.Following
import RequestCatalog.Proofs.Reached

/-! # A request among its siblings

  The siblings of a request are the requests of its workspace that lie where it lies,
  in ascending order. Stored priorities are numbers, and identifiers tell the siblings
  apart, so the request stands among them at one position: `before ++ r :: rest`.

  * `Store.placeAfter` is the priority that a copy of the request gets. It depends on
    what follows the request, and may be a number that is not in the gap there.
  * `Store.Cut` says how a place cuts the siblings. Where the copy is the last record
    of its table, it stands at the cut, because the order is stable.
-/

namespace RequestCatalog

/-! ### Priorities that are kept -/

namespace Priority

theorem zero_isNaN : (0.0 : Float).isNaN = false := by decide +kernel

/-- A number is kept in a form that compares like the number. -/
theorem kept_spec {x y : Float} (h : (Given.value x).keptPriority = .value y) :
    x.isNaN = false ∧ y.isNaN = false ∧ rank y = rank x := by
  have hy := (Given.isKept_of_keptPriority h).isNaN_eq_false
  rw [Given.keptPriority_value] at h
  cases hx : x.isNaN with
  | true =>
    rw [hx, if_pos rfl] at h
    cases h
  | false =>
    refine ⟨rfl, hy, ?_⟩
    rw [hx, if_neg (by simp)] at h
    split at h
    · next hzero =>
      cases h
      exact ((beq_iff hx zero_isNaN).mp hzero).symm
    · cases h
      rfl

end Priority

namespace Store

variable {s : Store} {p : Protocol} {r : Row (.request p)}

/-! ### Siblings -/

/-- The requests that lie where a request lies, in order. -/
def orderedSiblings (s : Store) (r : Row (.request p)) : List (Row (.request p)) :=
  Priority.sort Row.requestPriority
    ((s.requestsOf p (some r.data.workspaceId)).filter (·.data.folderId == r.data.folderId))

/-- The requests of the workspace of a request in order, as far as they lie where it lies. -/
def listedSiblings (s : Store) (r : Row (.request p)) : List (Row (.request p)) :=
  (Priority.sort Row.requestPriority (s.requestsOf p (some r.data.workspaceId))).filter
    (·.data.folderId == r.data.folderId)

/-- The priority that a copy of the request would get, and what would be reported. -/
def placeAfter (s : Store) (r : Row (.request p)) : Float × List Notice :=
  Priority.after (Op.placed r) ((Op.siblings s r.draft).map Op.placed)

theorem mem_requestsOf {x : Row (.request p)} {workspaceId : String} :
    x ∈ s.requestsOf p (some workspaceId) ↔
      x ∈ s.rows (.request p) ∧ x.data.workspaceId = workspaceId := by
  simp [requestsOf]

theorem siblings_draft : Op.siblings s r.draft =
    (s.requestsOf p (some r.data.workspaceId)).filter (·.data.folderId == r.data.folderId) := by
  show (s.requestsOf p (some r.data.workspaceId)).filter
    (·.data.folderId == (Given.ofOption r.data.folderId).toOption) = _
  rw [Given.toOption_ofOption]

theorem Intact.isNaN_eq_false (hs : s.Intact) {x : Row (.request p)}
    (hx : x ∈ s.rows (.request p)) : x.requestPriority.isNaN = false :=
  (hs.isKept hx).isNaN_eq_false

theorem Intact.requestsOf_isNaN (hs : s.Intact) (workspaceId : String) :
    ∀ x ∈ s.requestsOf p (some workspaceId), x.requestPriority.isNaN = false :=
  fun _ hx => hs.isNaN_eq_false (mem_requestsOf.mp hx).1

theorem Intact.siblings_isNaN (hs : s.Intact) :
    ∀ x ∈ (s.requestsOf p (some r.data.workspaceId)).filter (·.data.folderId == r.data.folderId),
      x.requestPriority.isNaN = false :=
  fun x hx => hs.requestsOf_isNaN _ x (List.mem_of_mem_filter hx)

/-- Listing a workspace and then looking at one folder is ordering the requests there. -/
theorem Intact.listedSiblings_eq (hs : s.Intact) : s.listedSiblings r = s.orderedSiblings r :=
  Priority.filter_sort (hs.requestsOf_isNaN _) _

theorem perm_orderedSiblings : (s.orderedSiblings r).Perm
    ((s.requestsOf p (some r.data.workspaceId)).filter (·.data.folderId == r.data.folderId)) :=
  Priority.perm_sort _

theorem mem_orderedSiblings {x : Row (.request p)} :
    x ∈ s.orderedSiblings r ↔ x ∈ s.rows (.request p) ∧
      x.data.workspaceId = r.data.workspaceId ∧ x.data.folderId = r.data.folderId := by
  rw [perm_orderedSiblings.mem_iff, List.mem_filter, mem_requestsOf, beq_iff_eq, and_assoc]

theorem Intact.orderedSiblings_isNaN (hs : s.Intact) {x : Row (.request p)}
    (hx : x ∈ s.orderedSiblings r) : x.requestPriority.isNaN = false :=
  hs.isNaN_eq_false (mem_orderedSiblings.mp hx).1

/-- The siblings have different identifiers. -/
theorem Intact.nodup_orderedSiblings (hs : s.Intact) :
    ((s.orderedSiblings r).map Row.id).Nodup := by
  rw [(perm_orderedSiblings.map Row.id).nodup_iff]
  have hsub : ((s.requestsOf p (some r.data.workspaceId)).filter
      (·.data.folderId == r.data.folderId)).Sublist (s.rows (.request p)) :=
    List.filter_sublist.trans List.filter_sublist
  exact (hs.distinct (.request p)).sublist (hsub.map Row.id)

/-- What stands in front of a stored request among its siblings are other requests. -/
theorem Intact.id_ne_of_split (hs : s.Intact) {before rest : List (Row (.request p))}
    (hsplit : s.orderedSiblings r = before ++ r :: rest) : ∀ x ∈ before, x.id ≠ r.id := by
  have hnodup := hs.nodup_orderedSiblings (r := r)
  rw [hsplit] at hnodup
  exact key_ne_of_nodup hnodup

/-! ### The place of a copy -/

section place

variable {before rest : List (Row (.request p))}

/-- The record that follows the source in order decides. -/
theorem placeAfter_of_split (hsplit : s.orderedSiblings r = before ++ r :: rest)
    (hbefore : ∀ x ∈ before, x.id ≠ r.id) :
    s.placeAfter r = Priority.placeBefore (Op.placed r) (rest.head?.map Op.placed) := by
  have hsort : Priority.sort Placed.priority ((Op.siblings s r.draft).map Op.placed) =
      before.map Op.placed ++ Op.placed r :: rest.map Op.placed := by
    rw [← List.map_cons, ← List.map_append, ← hsplit, Priority.sort_map, siblings_draft]
    rfl
  have hother : ∀ x ∈ before.map Op.placed, x.id ≠ (Op.placed r).id := by
    intro x hx
    obtain ⟨y, hy, rfl⟩ := List.mem_map.mp hx
    simpa [Op.placed] using hbefore y hy
  unfold placeAfter
  rw [Priority.after_of_split hsort hother, List.head?_map]

/-- The copy of the last sibling goes one step further on. -/
theorem placeAfter_last (hsplit : s.orderedSiblings r = before ++ [r])
    (hbefore : ∀ x ∈ before, x.id ≠ r.id) :
    s.placeAfter r = (r.requestPriority + Priority.gap, []) := by
  rw [placeAfter_of_split hsplit hbefore]
  rfl

/-- The copy of another sibling goes in the middle, which may fall onto an end. -/
theorem placeAfter_next {next : Row (.request p)} {more : List (Row (.request p))}
    (hsplit : s.orderedSiblings r = before ++ r :: next :: more)
    (hbefore : ∀ x ∈ before, x.id ≠ r.id) :
    s.placeAfter r =
      let middle := (r.requestPriority + next.requestPriority) / 2.0
      if r.requestPriority < middle ∧ middle < next.requestPriority then (middle, [])
      else (middle, [.noFreePriority r.requestPriority next.requestPriority (some r.id)]) := by
  rw [placeAfter_of_split hsplit hbefore]
  exact apply_ite (Prod.mk ((r.requestPriority + next.requestPriority) / 2.0)) _ _ _

/-- The place lies in the gap behind a request. Nothing is asked of it if no other request
    follows. -/
def FitsBehind (r : Row (.request p)) (place : Float) : List (Row (.request p)) → Prop
  | [] => True
  | next :: _ => r.requestPriority ≤ place ∧ place < next.requestPriority

/-- A stored request is found among its siblings. -/
theorem strayAnchor_not_mem_placeAfter (hsplit : s.orderedSiblings r = before ++ r :: rest)
    (hbefore : ∀ x ∈ before, x.id ≠ r.id) (id : Option String) (offset : Float) :
    .strayAnchor id offset ∉ (s.placeAfter r).2 := by
  cases rest with
  | nil =>
    rw [placeAfter_last hsplit hbefore]
    exact List.not_mem_nil
  | cons next more =>
    rw [placeAfter_next hsplit hbefore]
    dsimp only
    split
    · exact List.not_mem_nil
    · simp

/-- If there is nothing to warn of, the copy has a place in the gap. -/
theorem fitsBehind_placeAfter (hs : s.Intact) (hr : r ∈ s.rows (.request p))
    (hsplit : s.orderedSiblings r = before ++ r :: rest) (hbefore : ∀ x ∈ before, x.id ≠ r.id)
    (hnumber : (s.placeAfter r).1.isNaN = false)
    (hquiet : ∀ notice ∈ (s.placeAfter r).2, notice.level ≠ .warning) :
    FitsBehind r (s.placeAfter r).1 rest := by
  cases rest with
  | nil => trivial
  | cons next more =>
    rw [placeAfter_of_split hsplit hbefore] at hnumber hquiet ⊢
    obtain ⟨hless, hnext⟩ := Priority.between_of_quiet hquiet (Op.placed next) rfl
    exact ⟨Priority.le_of_lt (hs.isNaN_eq_false hr) hnumber hless, hnext⟩

end place

/-! ### The siblings with the copy -/

/-- A place cuts the siblings of a request into those up to it and those beyond it. -/
structure Cut (s : Store) (r : Row (.request p)) (place : Float)
    (lower upper : List (Row (.request p))) : Prop where
  eq_append : s.orderedSiblings r = lower ++ upper
  le_place : ∀ x ∈ lower, x.requestPriority ≤ place
  place_lt : ∀ x ∈ upper, place < x.requestPriority

section cut

variable {place : Float} {lower upper : List (Row (.request p))}

theorem Intact.exists_cut (hs : s.Intact) (hplace : place.isNaN = false) :
    ∃ lower upper, s.Cut r place lower upper := by
  obtain ⟨lower, upper, hsplit, hlower, hupper⟩ :=
    Priority.exists_split_sort hs.siblings_isNaN hplace
  exact ⟨lower, upper, hsplit, hlower, hupper⟩

/-- A place in the gap behind a request cuts its siblings right behind it. -/
theorem Intact.cut_of_fitsBehind (hs : s.Intact) {before rest : List (Row (.request p))}
    (hsplit : s.orderedSiblings r = before ++ r :: rest) (hplace : place.isNaN = false)
    (hle : r.requestPriority ≤ place) (hfits : FitsBehind r place rest) :
    s.Cut r place (before ++ [r]) rest := by
  have hnext : ∀ next ∈ rest.head?, place < next.requestPriority := by
    intro next hmem
    cases rest with
    | nil => cases hmem
    | cons first more =>
      obtain rfl := Option.some.inj hmem
      exact hfits.2
  obtain ⟨hlower, hupper⟩ :=
    Priority.bounds_of_split hs.siblings_isNaN hsplit hplace hle hnext
  exact ⟨by rw [hsplit, List.append_assoc]; rfl, hlower, hupper⟩

/-- A request that is new in its table comes last in its workspace. -/
theorem requestsOf_put {copy : Row (.request p)} (hnew : s.holds copy.key = false)
    {workspaceId : String} (hworkspace : copy.data.workspaceId = workspaceId) :
    (s.put copy).requestsOf p (some workspaceId) =
      s.requestsOf p (some workspaceId) ++ [copy] := by
  show ((s.put copy).rows (.request p)).filter _ = (s.rows (.request p)).filter _ ++ [copy]
  rw [rows_put_of_not_holds hnew, List.filter_append]
  simp [hworkspace]

/-- A copy that lies where its source lies goes where its place cuts the siblings. -/
theorem Intact.listedSiblings_put (hs : s.Intact) {copy : Row (.request p)}
    (hput : (s.put copy).Intact) (hnew : s.holds copy.key = false)
    (hworkspace : copy.data.workspaceId = r.data.workspaceId)
    (hfolder : copy.data.folderId = r.data.folderId)
    (hkept : (Given.value place).keptPriority = .value copy.requestPriority)
    (hcut : s.Cut r place lower upper) :
    (s.put copy).listedSiblings r = lower ++ copy :: upper := by
  -- the priority that is kept compares like the place, so the copy cuts where the place does
  obtain ⟨hplace, hcopy, hrank⟩ := Priority.kept_spec hkept
  have hnumber : ∀ x ∈ lower ++ upper, x.requestPriority.isNaN = false := by
    intro x hx
    rw [← hcut.eq_append] at hx
    exact hs.orderedSiblings_isNaN hx
  have hlower : ∀ x ∈ lower, x.requestPriority ≤ copy.requestPriority := by
    intro x hx
    have hx' := hnumber x (List.mem_append_left _ hx)
    rw [Priority.le_iff hx' hcopy, hrank, ← Priority.le_iff hx' hplace]
    exact hcut.le_place x hx
  have hupper : ∀ x ∈ upper, copy.requestPriority < x.requestPriority := by
    intro x hx
    have hx' := hnumber x (List.mem_append_right _ hx)
    rw [Priority.lt_iff hcopy hx', hrank, ← Priority.lt_iff hplace hx']
    exact hcut.place_lt x hx
  have hlast : [copy].filter (·.data.folderId == r.data.folderId) = [copy] := by simp [hfolder]
  rw [hput.listedSiblings_eq, orderedSiblings, requestsOf_put hnew hworkspace,
    List.filter_append, hlast]
  exact Priority.sort_concat hs.siblings_isNaN hcopy hcut.eq_append hlower hupper

end cut

end Store

end RequestCatalog
