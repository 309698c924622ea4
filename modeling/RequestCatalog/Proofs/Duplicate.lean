import RequestCatalog.Proofs.Priority.Increasing
import RequestCatalog.Proofs.Served
import RequestCatalog.Proofs.Siblings

/-! # Where a copy lands

  A copy is the last record of its table, and its priority lies in the gap behind its
  source. So it goes behind every sibling that is not greater. Whether that is the
  place right after the source depends on the gap: a middle that is rounded may fall
  onto one of its ends, and then the copy stands further on.

  A request is copied part by part, and free-form values that are nested too deep
  cannot be copied. Such a request has no copy.
-/

namespace RequestCatalog

namespace Store

variable {s : Store} {p : Protocol} {r : Row (.request p)}

/-! ### The copy is written -/

/-- A copy lacks no column. -/
theorem exists_columns_of_copy (r : Row (.request p)) {place kept : Float}
    (hkept : (Given.value place).keptPriority = .value kept) :
    ∃ columns, Sketch.columns? (Sketch.over Given.filledFrom (Op.copyAt r.draft place).data
      (Columns.defaults (.request p))) = .ok columns := by
  -- what has no default is set in the copy: the workspace, and the columns of its source
  generalize hcompleted : Sketch.over Given.filledFrom (Op.copyAt r.draft place).data
    (Columns.defaults (.request p)) = completed
  have hworkspace : completed.workspaceId = .value r.data.workspaceId := by
    subst hcompleted
    cases p <;> rfl
  have hname : completed.name = .value r.data.name := by
    subst hcompleted
    cases p <;> rfl
  have hcall : ∃ call, Call.Sketch.columns? completed.call = .ok call := by
    subst hcompleted
    cases p <;> exact ⟨_, rfl⟩
  have hpriority : completed.sortPriority = .value place := by
    subst hcompleted
    rfl
  obtain ⟨call, hcall⟩ := hcall
  simp only [Sketch.columns?, hworkspace, hname, hcall, hpriority, hkept]
  exact ⟨_, rfl⟩

/-- The copy of a stored request can be written under a new identifier. It stands in the place
    of its source, with the priority that it was given. -/
theorem Intact.write_copy (hs : s.Intact) (hr : r ∈ s.rows (.request p)) {id : String}
    (hnew : s.holds ⟨.request p, id⟩ = false) {place : Float} (hplace : place.isNaN = false)
    (now : Instant) :
    ∃ copy : Row (.request p),
      s.write id (Op.copyAt r.draft place).data now = .ok (copy, s.put copy) ∧ copy.id = id ∧
        copy.data.workspaceId = r.data.workspaceId ∧ copy.data.folderId = r.data.folderId ∧
        (Given.value place).keptPriority = .value copy.requestPriority := by
  obtain ⟨kept, hkept⟩ := Priority.exists_kept hplace
  have hcandidate : ∃ copy, s.candidate id (Op.copyAt r.draft place).data now = .ok copy := by
    obtain ⟨columns, hcolumns⟩ := exists_columns_of_copy r hkept
    unfold candidate
    rw [get?_eq_none_iff.mpr hnew]
    simp only [hcolumns]
    exact ⟨_, rfl⟩
  obtain ⟨copy, hcandidate⟩ := hcandidate
  obtain ⟨hworkspace, hfolder⟩ := place_of_candidate_request hcandidate
    (Op.copyAt_workspaceId r place) (Op.copyAt_folderId r place)
  have hrefs : copy.refs = r.refs := by
    show Columns.refs _ copy.data = Columns.refs _ r.data
    simp only [Columns.refs, hworkspace, hfolder]
  refine ⟨copy, write_eq_ok_iff.mpr ⟨hcandidate, ?_, rfl⟩, (candidate_cases hcandidate).1,
    hworkspace, hfolder, ?_⟩
  -- the copy refers to what its source refers to
  · refine List.all_eq_true.mpr fun ref href => ?_
    rw [hrefs] at href
    rw [hs.holds_ref hr ref href, Bool.or_true]
  · obtain ⟨-, -, ⟨old, hget, -⟩ | ⟨-, -, hcolumns⟩⟩ := candidate_cases hcandidate
    · rw [get?_eq_none_iff.mpr hnew] at hget
      cases hget
    · exact (Sketch.columns?_request hcolumns).2.2.2.2.1

end Store

/-! ### The step -/

section step

variable {c : Catalog} {p : Protocol} {r : Row (.request p)}
  (hget : c.store.get? (.request p) r.id = some r) (at? : Option Int)

include hget

/-- Copying a stored request, when the copy can be written. -/
theorem TimedStep.take_duplicate (source : Source)
    (hheight : r.draft.data.height ≤ Sketch.greatestCopied)
    (hwritable : r.draft.data.obstacle? = none) {copy : Row (.request p)} {t : Store}
    (hwrite : c.store.write (c.nextId (.request p))
      (Op.copyAt r.draft (c.store.placeAfter r).1).data
      (TimedStep.before ⟨at?, .duplicate p (.stored r.id) source.name⟩ c).now = .ok (copy, t)) :
    ∃ c', TimedStep.take ⟨at?, .duplicate p (.stored r.id) source.name⟩ c =
        (⟨.ok (.row copy), (c.store.placeAfter r).2 ++ [.written (.request p) copy.id source] ++
          [.copied p (some r.id) copy.id copy.data.sortPriority]⟩, c') ∧
      c'.store = t := by
  let step : TimedStep := ⟨at?, .duplicate p (.stored r.id) source.name⟩
  have hdraft : Op.draftOf (.stored r.id) (step.before c) = .ok r.draft (step.before c) :=
    Op.run_draftOf hget
  have hplace : Priority.after ⟨r.draft.id.toOption, r.requestPriority⟩
      ((Op.siblings c.store r.draft).map Op.placed) =
      ((c.store.placeAfter r).1, (c.store.placeAfter r).2) := rfl
  have hcopy := Op.run_duplicate_of_write r.draft (step.before c) source hheight rfl hplace
    hwritable hwrite
  have hrun : step.step.run (step.before c) = .ok (.row copy) _ :=
    (Op.run_bind_of_ok hdraft _).trans (Op.run_bind_of_ok hcopy _)
  exact ⟨_, TimedStep.take_of_ok step hrun, rfl⟩

/-- A stored request that is too deep is not copied, and nothing changes. -/
theorem TimedStep.take_duplicate_of_lt (source : String)
    (hheight : Sketch.greatestCopied < r.draft.data.height) :
    ∃ c', TimedStep.take ⟨at?, .duplicate p (.stored r.id) source⟩ c =
        (⟨.error .tooDeep, []⟩, c') ∧ c'.store = c.store := by
  let step : TimedStep := ⟨at?, .duplicate p (.stored r.id) source⟩
  have hdraft : Op.draftOf (.stored r.id) (step.before c) = .ok r.draft (step.before c) :=
    Op.run_draftOf hget
  have hcopy : Op.duplicate r.draft source (step.before c) = .error .tooDeep (step.before c) := by
    unfold Op.duplicate
    rw [Op.run_bind, Op.run_copy, if_neg (not_le.mpr hheight)]
  have hrun : step.step.run (step.before c) = .error .tooDeep (step.before c) := by
    show (Op.draftOf (.stored r.id) >>= fun d => Op.duplicate d source >>= _) (step.before c) = _
    rw [Op.run_bind_of_ok hdraft, Op.run_bind, hcopy]
  exact ⟨_, TimedStep.take_of_error step hrun, rfl⟩

end step

namespace Store

/-- What a copy comes to among the siblings of its source. Right behind its source it stands
    if its place lies in the gap there, and else it goes where its place cuts them. -/
structure Lands {p : Protocol} (s t : Store) (r copy : Row (.request p)) (place : Float) :
    Prop where
  mem : r ∈ s.orderedSiblings r
  behind : ∀ before rest, s.orderedSiblings r = before ++ r :: rest → FitsBehind r place rest →
    t.listedSiblings r = before ++ r :: copy :: rest
  cut : ∃ lower upper, s.Cut r place lower upper ∧ t.listedSiblings r = lower ++ copy :: upper

theorem Intact.lands {s : Store} (hs : s.Intact) {p : Protocol} {r copy : Row (.request p)}
    (hr : r ∈ s.rows (.request p)) (hput : (s.put copy).Intact)
    (hnew : s.holds copy.key = false) (hworkspace : copy.data.workspaceId = r.data.workspaceId)
    (hfolder : copy.data.folderId = r.data.folderId)
    (hkept : (Given.value (s.placeAfter r).1).keptPriority = .value copy.requestPriority) :
    s.Lands (s.put copy) r copy (s.placeAfter r).1 := by
  have hplace := (Priority.kept_spec hkept).1
  have hlisted : ∀ lower upper, s.Cut r (s.placeAfter r).1 lower upper →
      (s.put copy).listedSiblings r = lower ++ copy :: upper :=
    fun _ _ => hs.listedSiblings_put hput hnew hworkspace hfolder hkept
  refine ⟨mem_orderedSiblings.mpr ⟨hr, rfl, rfl⟩, fun before rest hsplit hfits => ?_, ?_⟩
  · have hle : r.requestPriority ≤ (s.placeAfter r).1 := by
      cases rest with
      | nil =>
        rw [placeAfter_last hsplit (hs.id_ne_of_split hsplit)]
        exact Priority.le_add_gap (Priority.IsKept.isNaN_eq_false (hs.isKept hr))
      | cons next more => exact hfits.1
    rw [hlisted _ _ (hs.cut_of_fitsBehind hsplit hplace hle hfits), List.append_assoc]
    rfl
  · obtain ⟨lower, upper, hcut⟩ := hs.exists_cut (r := r) hplace
    exact ⟨lower, upper, hcut, hlisted lower upper hcut⟩

end Store

namespace Catalog

/-- Wherever a session gets, a stored request that is not too deep is copied. The source is
    found among its siblings, the copy goes where its place cuts them, and if nothing is warned
    of that is right behind the source. A request that is too deep is not copied, and nothing
    changes.

    The place of the copy has to be a number, and its identifier a new one. -/
theorem Reached.copy_lands_behind {c : Catalog} (hc : c.Reached) {p : Protocol}
    {r : Row (.request p)} (hr : r ∈ c.store.rows (.request p)) (source : Source)
    (at? : Option Int) (hnew : c.store.holds ⟨.request p, c.nextId (.request p)⟩ = false)
    (hnumber : (c.store.placeAfter r).1.isNaN = false) :
    (r.draft.data.height ≤ Sketch.greatestCopied →
      ∃ copy journal c',
        TimedStep.take ⟨at?, .duplicate p (.stored r.id) source.name⟩ c =
          (⟨.ok (.row copy), journal⟩, c') ∧
        c'.store = c.store.put copy ∧ copy.id = c.nextId (.request p) ∧
        (∀ id offset, .strayAnchor id offset ∉ journal) ∧
        c.store.Lands c'.store r copy (c.store.placeAfter r).1 ∧
        ((∀ notice ∈ journal, notice.level ≠ .warning) →
          ∀ before rest, c.store.orderedSiblings r = before ++ r :: rest →
            c'.store.listedSiblings r = before ++ r :: copy :: rest)) ∧
    (Sketch.greatestCopied < r.draft.data.height →
      ∃ c', TimedStep.take ⟨at?, .duplicate p (.stored r.id) source.name⟩ c =
          (⟨.error .tooDeep, []⟩, c') ∧
        c'.store = c.store) := by
  have hs := hc.intact
  have hget := hs.distinct.get?_of_mem hr
  refine ⟨fun hheight => ?_, TimedStep.take_duplicate_of_lt hget at? source.name⟩
  obtain ⟨copy, hwrite, hid, hworkspace, hfolder, hkept⟩ := hs.write_copy hr hnew hnumber
    (TimedStep.before ⟨at?, .duplicate p (.stored r.id) source.name⟩ c).now
  obtain ⟨c', htake, hstore⟩ := TimedStep.take_duplicate hget at? source hheight
    (hc.writable _ r hr) hwrite
  have hfree : c.store.holds copy.key = false := by
    show c.store.holds ⟨.request p, copy.id⟩ = false
    rw [hid]
    exact hnew
  have hlands : c.store.Lands c'.store r copy (c.store.placeAfter r).1 := by
    rw [hstore]
    exact hs.lands hr (hs.write hwrite) hfree hworkspace hfolder hkept
  refine ⟨copy, _, c', htake, hstore, hid, fun id offset hmem => ?_, hlands, ?_⟩
  · obtain ⟨before, rest, hsplit⟩ := List.append_of_mem hlands.mem
    have hfound := Store.strayAnchor_not_mem_placeAfter hsplit (hs.id_ne_of_split hsplit) id offset
    simp [hfound] at hmem
  · intro hquiet before rest hsplit
    refine hlands.behind before rest hsplit ?_
    refine Store.fitsBehind_placeAfter hs hr hsplit (hs.id_ne_of_split hsplit) hnumber ?_
    intro notice hnotice
    exact hquiet notice (by simp [hnotice])

/-- In the run of calls both requests can be copied once more. -/
theorem toured_copies_land_behind :
    (toured.store.rows (.request .http)).map Row.id = ["r", "rq_0000000001"] ∧
      ∀ r ∈ toured.store.rows (.request .http), ∃ copy journal c',
        TimedStep.take ⟨none, .duplicate .http (.stored r.id) "window"⟩ toured =
          (⟨.ok (.row copy), journal⟩, c') ∧
        toured.store.Lands c'.store r copy (toured.store.placeAfter r).1 := by
  refine ⟨by decide +kernel, fun r hr => ?_⟩
  have hall : ∀ r ∈ toured.store.rows (.request .http),
      (toured.store.placeAfter r).1.isNaN = false ∧
        r.draft.data.height ≤ Sketch.greatestCopied := by decide +kernel
  obtain ⟨hnumber, hheight⟩ := hall r hr
  obtain ⟨copy, journal, c', htake, -, -, -, hlands, -⟩ :=
    (toured_served.reached.copy_lands_behind hr .window none (by decide +kernel) hnumber).1 hheight
  exact ⟨copy, journal, c', htake, hlands⟩

/-- A session that stores a request whose authentication is too deep to copy. -/
def sunken : Catalog :=
  (runFrom {}
    [.post "/api/workspaces" [("id", .text "w"), ("name", .text "shop")],
     .post "/api/http-requests" [("id", .text "r"), ("workspace_id", .text "w"),
      ("authentication", .object [("a", (fun j => .list [j])^[800] (.list []))])]]).2

/-- The only request of a workspace has no copy behind it after the step, although the copy
    would have a place and a new identifier. -/
theorem sunken_not_copied :
    sunken.Reached ∧ (sunken.store.rows (.request .http)).map Row.id = ["r"] ∧
      ∀ r ∈ sunken.store.rows (.request .http),
        sunken.store.holds ⟨.request .http, sunken.nextId (.request .http)⟩ = false ∧
        (sunken.store.placeAfter r).1.isNaN = false ∧
        ∀ copy, ¬ sunken.store.Lands
          (TimedStep.take ⟨none, .duplicate .http (.stored r.id) "window"⟩ sunken).2.store r copy
          (sunken.store.placeAfter r).1 := by
  have hreached : sunken.Reached := .runFrom (.start rfl) _
  refine ⟨hreached, by decide +kernel, fun r hr => ?_⟩
  have hall : ∀ r ∈ sunken.store.rows (.request .http),
      sunken.store.holds ⟨.request .http, sunken.nextId (.request .http)⟩ = false ∧
        (sunken.store.placeAfter r).1.isNaN = false ∧
        Sketch.greatestCopied < r.draft.data.height := by decide +kernel
  obtain ⟨hnew, hnumber, hheight⟩ := hall r hr
  refine ⟨hnew, hnumber, fun copy hlands => ?_⟩
  have hs := hreached.intact
  obtain ⟨c', htake, hstore⟩ :=
    TimedStep.take_duplicate_of_lt (hs.distinct.get?_of_mem hr) none "window" hheight
  rw [htake] at hlands
  obtain ⟨lower, upper, hcut, hlisted⟩ := hlands.cut
  rw [hstore, hs.listedSiblings_eq, hcut.eq_append] at hlisted
  -- the listing would have grown by one
  have hlength := congrArg List.length hlisted
  simp at hlength

end Catalog

end RequestCatalog
