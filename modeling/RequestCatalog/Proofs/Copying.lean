import RequestCatalog.Proofs.Completing
import RequestCatalog.Proofs.Duplicate

/-! # What a copy holds

  A copy goes the way of every new record: its columns are completed over the defaults and put
  into the form in which they are kept. A default stands only where the copy holds nothing or
  something that agrees with it, so nothing of the source is lost on this way.

  One thing is lost on the way through a column. A floating-point number that stands alone in a
  free-form column is put in writing for the copy, and the numeral is read again. What is read
  may be a number next to the one that was written (`Json.reread`).

  * `Sketch.columns?_copy` is the one account of the columns of a copy.
  * `Store.Duplicates` says that a store has one more record, a copy, and is the same otherwise.
  * `Catalog.Reached.copies_one`: this is what copying comes to, unless the request is too deep
    or the copy has no place. `drifted_not_copied` is a session in which the copy holds another
    number than its source.
-/

namespace RequestCatalog

/-! ### Free-form values -/

/-- A value that went through a column once more. A floating-point number that stands alone is
    put in writing, and the numeral is read. -/
def Json.reread : Json → Json
  | .real x => (FreeForm.keptValue (.real x)).value
  | j => j

namespace FreeForm

/-- What a column holds is worth the same after it went through a column once more. -/
theorem value_keptValue {f : FreeForm} (hkept : f.kept = f) :
    (keptValue f.value).value = f.value.reread := by
  cases f with
  | loose j => exact absurd hkept (keptValue_ne_loose j j)
  | number n =>
    obtain ⟨number, hread⟩ := n
    cases number with
    | real x => rfl
    | whole n =>
      -- the whole number was read, so it fits
      have hfits : fits64 n = true := hread
      show ((Number.whole n).kept?.elim (written (.int n)) FreeForm.number).value = _
      rw [Number.kept?, dif_pos hfits]
      rfl
  | written j =>
    have hsame : keptValue j = written j := hkept
    show (keptValue j).value = j.reread
    cases j with
    | real x => rfl
    | null | bool | int | text | list | object =>
      rw [hsame]
      rfl

/-- Over an empty object or an empty list a value is kept as if there were no default. -/
theorem kept_laid_default {default : FreeForm} (j : Json)
    (hdefault : default = written (.object []) ∨ default = written (.list [])) :
    ((laid (some (loose j)) (some default)).getD (written .null)).kept = keptValue j := by
  show (if default.agrees (loose j) then default else loose j).kept = _
  cases hagrees : default.agrees (loose j) with
  | false => rfl
  | true =>
    rw [if_pos rfl]
    rcases hdefault with rfl | rfl
    · obtain rfl : j = .object [] := Json.eq_of_agrees_object hagrees
      rfl
    · obtain rfl : j = .list [] := Json.eq_of_agrees_list hagrees
      rfl

/-- A value that is laid over nothing is worth what it was worth. -/
theorem loosened_laid_null (f : FreeForm) :
    (laid (some f) (some (written .null))).map loosened = some (loose f.value) := by
  show some (if (written .null).agrees f then written .null else f).loosened = _
  cases hagrees : (written .null).agrees f with
  | false => rfl
  | true =>
    rw [if_pos rfl, value_eq_null hagrees]
    rfl

end FreeForm

/-! ### Columns -/

/-- Settings of which every free-form value was written into a column anew. -/
def Settings.rewritten (s : Settings) : Settings where
  authenticationType := s.authenticationType
  authentication := FreeForm.keptValue s.authentication.value
  entries := FreeForm.keptValue s.entries.value

theorem Settings.kept_copy (s : Settings) :
    ((s.sketch.over Given.laidOver blank).copy.over Given.filledFrom defaults).complete.kept =
      s.rewritten := by
  have hcopy : (s.sketch.over Given.laidOver blank).copy =
      ⟨.ofOption s.authenticationType, some (.loose s.authentication.value),
        some (.loose s.entries.value)⟩ := by
    simp only [Sketch.copy, Sketch.over, sketch, blank, FreeForm.loosened_laid_null,
      Given.laidOver_ofOption]
  rw [hcopy]
  simp only [kept, Sketch.complete, Sketch.over, defaults, rewritten,
    Given.filledFrom_ofOption_null, Given.toOption_ofOption]
  rw [FreeForm.kept_laid_default _ (.inl rfl), FreeForm.kept_laid_default _ (.inr rfl)]

section columns

variable {p : Protocol} (r : Row (.request p)) {place : Float}

/-- The columns of a copy at a place. -/
def Row.copiedTo (r : Row (.request p)) (place : Float) : Columns (.request p) :=
  { r.data with
    sortPriority := Priority.unsigned place
    settings := r.data.settings.rewritten }

/-- A draft of a copy, completed over the defaults. -/
theorem Op.copyAt_over_defaults :
    Sketch.over Given.filledFrom (Op.copyAt r.draft place).data (Columns.defaults (.request p)) =
      { workspaceId := .value r.data.workspaceId, folderId := .ofOption r.data.folderId
        name := .value r.data.name, call := Call.sketch r.data.call, sortPriority := .value place
        settings := (r.data.settings.sketch.over Given.laidOver Settings.blank).copy.over
          Given.filledFrom Settings.defaults } := by
  cases p with
  | http | grpc =>
    simp only [copyAt, Row.draft, Draft.settled, Sketch.copy, Columns.sketch, Sketch.over,
      Columns.blank, Columns.defaults, Given.laidOver_value, Given.laidOver_ofOption,
      Given.filledFrom_value, Given.filledFrom_ofOption_null, Call.Sketch.laidOver_sketch,
      Call.Sketch.filledFrom_sketch]

/-- A copy takes every column of its source and the place that it was given. -/
theorem Sketch.columns?_copy (hplace : place.isNaN = false) :
    Sketch.columns? (Sketch.over Given.filledFrom (Op.copyAt r.draft place).data
      (Columns.defaults (.request p))) = .ok (r.copiedTo place) := by
  have hpriority := Given.keptPriority_of_number hplace
  rw [Op.copyAt_over_defaults]
  simp only [Sketch.columns?, hpriority, Call.columns?_sketch, Settings.kept_copy,
    Given.toOption_ofOption]
  rfl

/-- A copy without a place lacks its priority and nothing else. -/
theorem Sketch.columns?_copy_of_isNaN (hplace : place.isNaN = true) :
    Sketch.columns? (Sketch.over Given.filledFrom (Op.copyAt r.draft place).data
      (Columns.defaults (.request p))) =
      .error (.emptyColumn (.request p) "sort_priority") := by
  have hpriority : (Given.value place).keptPriority = .null := by
    rw [Given.keptPriority_value, if_pos hplace]
  rw [Op.copyAt_over_defaults]
  simp only [Sketch.columns?, hpriority, Call.columns?_sketch]
  rfl

end columns

/-! ### One more record -/

namespace Store

variable {s t : Store} {p : Protocol}

/-- The copy holds what its source holds, at the place that it was given. Free-form values went
    through a column once more. -/
structure Copies (r copy : Row (.request p)) (place : Float) : Prop where
  workspaceId : copy.data.workspaceId = r.data.workspaceId
  folderId : copy.data.folderId = r.data.folderId
  name : copy.data.name = r.data.name
  call : copy.data.call = r.data.call
  sortPriority : copy.data.sortPriority = Priority.unsigned place
  authenticationType : copy.data.settings.authenticationType = r.data.settings.authenticationType
  authentication : copy.data.settings.authentication.value =
    r.data.settings.authentication.value.reread
  entries : copy.data.settings.entries.value = r.data.settings.entries.value.reread

/-- Between the two stores a copy was added behind the last request, and nothing else changed. -/
structure Duplicates (s t : Store) (r copy : Row (.request p)) (place : Float) : Prop where
  copies : Copies r copy place
  requests : t.rows (.request p) = s.rows (.request p) ++ [copy]
  others : ∀ k, k ≠ .request p → t.rows k = s.rows k

variable {r : Row (.request p)} {id : String} {place : Float} {now : Instant}

/-- A copy of settings that are kept holds what they hold. -/
theorem SettingsKept.copies (hs : s.SettingsKept) (hr : r ∈ s.rows (.request p))
    {copy : Row (.request p)} (hcopy : copy.data = r.copiedTo place) :
    Copies r copy place := by
  have hkept := hs (.request p) r hr r.data.settings rfl
  constructor
  case authentication =>
    rw [hcopy]
    exact FreeForm.value_keptValue (congrArg Settings.authentication hkept)
  case entries =>
    rw [hcopy]
    exact FreeForm.value_keptValue (congrArg Settings.entries hkept)
  all_goals
    rw [hcopy]
    rfl

theorem candidate_copy (hnew : s.holds ⟨.request p, id⟩ = false) :
    s.candidate id (Op.copyAt r.draft place).data now =
      (Sketch.columns? (Sketch.over Given.filledFrom (Op.copyAt r.draft place).data
        (Columns.defaults (.request p)))).map fun columns => ⟨id, columns, now, now⟩ := by
  unfold candidate
  rw [get?_eq_none_iff.mpr hnew]
  cases Sketch.columns? (Sketch.over Given.filledFrom (Op.copyAt r.draft place).data
    (Columns.defaults (.request p))) <;> rfl

/-- A copy with a place is written under a new identifier. -/
theorem Intact.write_copy_eq (hs : s.Intact) (hr : r ∈ s.rows (.request p))
    (hnew : s.holds ⟨.request p, id⟩ = false) (hplace : place.isNaN = false) (now : Instant) :
    s.write id (Op.copyAt r.draft place).data now =
      .ok (⟨id, r.copiedTo place, now, now⟩, s.put ⟨id, r.copiedTo place, now, now⟩) := by
  obtain ⟨copy, hwrite, -⟩ := hs.write_copy hr hnew hplace now
  have hcandidate := (write_eq_ok_iff.mp hwrite).1
  rw [candidate_copy hnew, Sketch.columns?_copy r hplace] at hcandidate
  obtain rfl := Except.ok.inj hcandidate
  exact hwrite

/-- A copy without a place is refused for it. -/
theorem write_copy_eq_of_isNaN (hnew : s.holds ⟨.request p, id⟩ = false)
    (hplace : place.isNaN = true) (now : Instant) :
    s.write id (Op.copyAt r.draft place).data now =
      .error (.emptyColumn (.request p) "sort_priority") := by
  unfold write
  rw [candidate_copy hnew, Sketch.columns?_copy_of_isNaN r hplace]
  rfl

end Store

/-! ### The step -/

section step

variable {c : Catalog} {p : Protocol} {r : Row (.request p)}
  (hget : c.store.get? (.request p) r.id = some r) (at? : Option Int)

include hget

/-- Copying a stored request, when the copy is refused. -/
theorem TimedStep.take_duplicate_of_refused (source : String)
    (hheight : r.draft.data.height ≤ Sketch.greatestCopied)
    (hwritable : r.draft.data.obstacle? = none) {v : Violation}
    (hwrite : c.store.write (c.nextId (.request p))
      (Op.copyAt r.draft (c.store.placeAfter r).1).data
      (TimedStep.before ⟨at?, .duplicate p (.stored r.id) source⟩ c).now = .error v) :
    ∃ left, TimedStep.take ⟨at?, .duplicate p (.stored r.id) source⟩ c =
        (⟨.error (.violation v), (c.store.placeAfter r).2⟩, left) ∧ left.store = c.store := by
  let step : TimedStep := ⟨at?, .duplicate p (.stored r.id) source⟩
  let placed : Catalog := { step.before c with journal := (c.store.placeAfter r).2 }
  have hdraft : Op.draftOf (.stored r.id) (step.before c) = .ok r.draft (step.before c) :=
    Op.run_draftOf hget
  have hplace : Priority.after ⟨r.draft.id.toOption, r.requestPriority⟩
      ((Op.siblings c.store r.draft).map Op.placed) =
      ((c.store.placeAfter r).1, (c.store.placeAfter r).2) := rfl
  have hupsert := Op.run_upsert_of_violation (Op.copyAt r.draft (c.store.placeAfter r).1) placed
    source (Op.fits_copyAt hwritable) hwrite
  have hcopy : Op.duplicate r.draft source (step.before c) = .error (.violation v)
      { placed with issued := c.issued ++ [⟨.request p, c.nextId (.request p)⟩] } := by
    rw [Op.run_duplicate r.draft (step.before c) source hheight rfl hplace, Op.run_bind]
    have hsame : { step.before c with
        journal := (step.before c).journal ++ (c.store.placeAfter r).2 } = placed := rfl
    rw [hsame, hupsert]
    rfl
  have hrun : step.step.run (step.before c) = .error (.violation v)
      { placed with issued := c.issued ++ [⟨.request p, c.nextId (.request p)⟩] } := by
    show (Op.draftOf (.stored r.id) >>= fun d => Op.duplicate d source >>= _) (step.before c) = _
    rw [Op.run_bind_of_ok hdraft, Op.run_bind, hcopy]
  exact ⟨_, TimedStep.take_of_error step hrun, rfl⟩

end step

namespace Catalog

/-- Wherever sessions get, copying a stored request under a new identifier comes to this:

    * A request that is too deep is not copied, and nothing changes.
    * If the place of the copy is no number, the tables refuse it for its missing priority, and
      nothing changes.
    * Else the copy is added, and nothing else changes. It was written at the time of the step,
      and it holds what its source holds at the place behind it. -/
theorem Reached.copies_one {c : Catalog} (hc : c.Reached) {p : Protocol} {r : Row (.request p)}
    (hr : r ∈ c.store.rows (.request p)) (source : Source) (at? : Option Int)
    (hnew : c.store.holds ⟨.request p, c.nextId (.request p)⟩ = false) :
    let step : TimedStep := ⟨at?, .duplicate p (.stored r.id) source.name⟩
    let place := (c.store.placeAfter r).1
    (Sketch.greatestCopied < r.draft.data.height →
      ∃ left, step.take c = (⟨.error .tooDeep, []⟩, left) ∧ left.store = c.store) ∧
    (r.draft.data.height ≤ Sketch.greatestCopied → place.isNaN = true →
      ∃ left, step.take c =
        (⟨.error (.violation (.emptyColumn (.request p) "sort_priority")),
          (c.store.placeAfter r).2⟩, left) ∧ left.store = c.store) ∧
    (r.draft.data.height ≤ Sketch.greatestCopied → place.isNaN = false →
      ∃ copy left, step.take c =
        (⟨.ok (.row copy), (c.store.placeAfter r).2 ++ [.written (.request p) copy.id source] ++
          [.copied p (some r.id) copy.id copy.data.sortPriority]⟩, left) ∧
        copy.id = c.nextId (.request p) ∧ copy.createdAt = (step.before c).now ∧
        copy.updatedAt = (step.before c).now ∧
        c.store.Duplicates left.store r copy place) := by
  intro step place
  have hget := hc.intact.distinct.get?_of_mem hr
  refine ⟨?_, fun hheight hnan => ?_, fun hheight hnumber => ?_⟩
  · exact TimedStep.take_duplicate_of_lt hget at? source.name
  · exact TimedStep.take_duplicate_of_refused hget at? source.name hheight
      (hc.writable _ r hr) (Store.write_copy_eq_of_isNaN hnew hnan _)
  · have hwrite := hc.intact.write_copy_eq hr hnew hnumber (step.before c).now
    obtain ⟨left, htake, hstore⟩ := TimedStep.take_duplicate hget at? source hheight
      (hc.writable _ r hr) hwrite
    refine ⟨_, left, htake, rfl, rfl, rfl, hc.settingsKept.copies hr rfl, ?_, fun k hk => ?_⟩
    · rw [hstore]
      exact Store.rows_put_of_not_holds hnew
    · rw [hstore]
      exact Store.rows_put_ne hk

/-- In the run of calls both requests can be copied once more, and the copies hold the same. -/
theorem toured_copies_one :
    (toured.store.rows (.request .http)).map Row.id = ["r", "rq_0000000001"] ∧
      ∀ r ∈ toured.store.rows (.request .http), ∃ copy left journal,
        TimedStep.take ⟨none, .duplicate .http (.stored r.id) "window"⟩ toured =
          (⟨.ok (.row copy), journal⟩, left) ∧ copy.id = "rq_0000000002" ∧
        toured.store.Duplicates left.store r copy (toured.store.placeAfter r).1 := by
  refine ⟨by decide +kernel, fun r hr => ?_⟩
  have hall : ∀ r ∈ toured.store.rows (.request .http),
      (toured.store.placeAfter r).1.isNaN = false ∧
        r.draft.data.height ≤ Sketch.greatestCopied := by decide +kernel
  have hid : toured.nextId (.request .http) = "rq_0000000002" := by decide +kernel
  obtain ⟨hnumber, hheight⟩ := hall r hr
  obtain ⟨copy, left, htake, hcopy, -, -, hduplicates⟩ :=
    (toured_served.reached.copies_one hr .window none (by decide +kernel)).2.2 hheight hnumber
  exact ⟨copy, left, _, htake, hcopy.trans hid, hduplicates⟩

/-- A session that stores a request whose authentication is a single floating-point number. -/
def drifted : Catalog :=
  (runFrom {}
    [.post "/api/workspaces" [("id", .text "w"), ("name", .text "shop")],
     ⟨none, .upsert (.request .http)
       { id := .value "r", data := { workspaceId := .value "w", call := {}, settings :=
         { authentication := some (.loose (.real (Float.ofBits 0x16a23d67a4ea707))) } } }
       "window"⟩]).2

/-- The step that copies the request leaves no other record that holds the same authentication,
    although the copy would have a place and a new identifier. -/
def LacksCopy (c : Catalog) (r : Row (.request .http)) : Prop :=
  c.store.holds ⟨.request .http, c.nextId (.request .http)⟩ = false ∧
    (c.store.placeAfter r).1.isNaN = false ∧
    ∀ copy ∈ (TimedStep.take ⟨none, .duplicate .http (.stored r.id) "window"⟩ c).2.store.rows
      (.request .http), copy.id ≠ r.id →
        copy.data.settings.authentication.value ≠ r.data.settings.authentication.value

/-- The request of the one session is too deep. In the other session the copy holds another
    number than its source. -/
theorem drifted_not_copied :
    (sunken.Reached ∧ (sunken.store.rows (.request .http)).map Row.id = ["r"] ∧
      ∀ r ∈ sunken.store.rows (.request .http), sunken.LacksCopy r) ∧
    drifted.Reached ∧ (drifted.store.rows (.request .http)).map Row.id = ["r"] ∧
      ∀ r ∈ drifted.store.rows (.request .http), drifted.LacksCopy r := by
  constructor
  · have hreached : sunken.Reached := .runFrom (.start rfl) _
    have hids : (sunken.store.rows (.request .http)).map Row.id = ["r"] := by decide +kernel
    have hall : ∀ r ∈ sunken.store.rows (.request .http),
        sunken.store.holds ⟨.request .http, sunken.nextId (.request .http)⟩ = false ∧
          (sunken.store.placeAfter r).1.isNaN = false ∧
          Sketch.greatestCopied < r.draft.data.height := by decide +kernel
    refine ⟨hreached, hids, fun r hr => ?_⟩
    obtain ⟨hnew, hnumber, hheight⟩ := hall r hr
    refine ⟨hnew, hnumber, fun copy hcopy hother => ?_⟩
    -- the step fails, so there is still only one request
    obtain ⟨left, htake, hstore⟩ := TimedStep.take_duplicate_of_lt
      (hreached.intact.distinct.get?_of_mem hr) none "window" hheight
    rw [htake] at hcopy
    have hstored : copy ∈ sunken.store.rows (.request .http) := hstore ▸ hcopy
    have hid : ∀ x ∈ sunken.store.rows (.request .http), x.id = "r" := by
      intro x hx
      have hmem := List.mem_map_of_mem (f := Row.id) hx
      rw [hids] at hmem
      exact List.mem_singleton.mp hmem
    exact absurd ((hid copy hstored).trans (hid r hr).symm) hother
  · have hall : ∀ r ∈ drifted.store.rows (.request .http),
        drifted.store.holds ⟨.request .http, drifted.nextId (.request .http)⟩ = false ∧
          (drifted.store.placeAfter r).1.isNaN = false ∧
          r.data.settings.authentication.value.agrees false
            r.data.settings.authentication.value = true ∧
          ∀ copy ∈ (TimedStep.take ⟨none, .duplicate .http (.stored r.id) "window"⟩
            drifted).2.store.rows (.request .http), copy.id ≠ r.id →
              copy.data.settings.authentication.value.agrees false
                r.data.settings.authentication.value = false := by decide +kernel
    refine ⟨.runFrom (.start rfl) _, by decide +kernel, fun r hr => ?_⟩
    obtain ⟨hnew, hnumber, hitself, hcopies⟩ := hall r hr
    refine ⟨hnew, hnumber, fun copy hcopy hother hsame => ?_⟩
    have hdiffers := hcopies copy hcopy hother
    rw [hsame, hitself] at hdiffers
    cases hdiffers

end Catalog

end RequestCatalog
