import RequestCatalog.Proofs.Ancestry
import RequestCatalog.Proofs.Copying
import RequestCatalog.Proofs.Numeral.Rereading

/-! # A copy has what its source has in the end

  A copy lies where its source lies, so it inherits the same. And it has the same of its own. The
  one thing that may change on the way into the copy is a floating-point number that stands alone
  in a free-form column, and no such number is authentication or entries: it fails for both in
  the same way, unless it is zero. But it does not become zero, and zero is not held as a
  floating-point number (`FreeForm.reread_cases`).

  * `Copies.requestEntries_eq`, `Copies.requestAuthentication_eq`: in one store a copy has what
    its source has, only that authentication of its own is owned by the copy.
  * `Catalog.Reached.copy_inherits`: this is how it is once a stored request is copied, and the
    source has what it had before.
-/

namespace RequestCatalog

/-! ### What a column reads again -/

namespace Json

variable {x : Float}

theorem mappingOrVacant_real (h : (x == 0.0) = false) :
    (Json.real x).mappingOrVacant = .error (.noParts "float") := by
  unfold mappingOrVacant
  rw [if_neg (by simp [isVacant, h])]
  rfl

theorem entries_real (h : (x == 0.0) = false) :
    (Json.real x).entries = .error (.noParts "float") := by
  unfold entries
  rw [if_neg (by simp [isVacant, h])]
  rfl

end Json

namespace FreeForm

variable {f : FreeForm}

/-- What a column reads again from what it holds is the same, or both are floating-point numbers
    other than zero. -/
theorem reread_cases (hkept : f.kept = f) :
    f.value.reread = f.value ∨ ∃ y z, f.value = .real y ∧ f.value.reread = .real z ∧
      (y == 0.0) = false ∧ (z == 0.0) = false := by
  cases f with
  | loose j => exact absurd hkept (keptValue_ne_loose j j)
  | number n =>
    obtain ⟨number, hread⟩ := n
    cases number with
    | whole n => exact .inl rfl
    | real y =>
      have hread : Number.tidy y = .real y := hread
      cases hfinite : y.isFinite with
      | false =>
        -- there is no numeral, so it stays
        left
        show (((Number.real y).kept?).elim (written (.real y)) FreeForm.number).value = _
        rw [Number.kept?, hfinite]
        rfl
      | true =>
        have hagain := Number.tidy_approximate_numeral hfinite hread
        refine .inr ⟨y, (Shortest.numeral y).approximate, rfl, ?_, Number.beq_zero_of_tidy hread,
          Number.beq_zero_of_tidy hagain⟩
        show (((Number.real y).kept?).elim (written (.real y)) FreeForm.number).value = _
        rw [Number.kept?, hfinite]
        show Json.ofNumber (Number.tidy _) = _
        rw [hagain]
        rfl
  | written j =>
    -- a number in writing would have been read
    left
    have hsame : keptValue j = written j := hkept
    cases j with
    | real y =>
      show (keptValue (.real y)).value = _
      rw [hsame]
    | null | bool | int | text | list | object => rfl

/-- It makes the same mapping, or fails in the same way. -/
theorem mappingOrVacant_reread (hkept : f.kept = f) :
    f.value.reread.mappingOrVacant = f.value.mappingOrVacant := by
  rcases reread_cases hkept with hsame | ⟨y, z, hvalue, hreread, hy, hz⟩
  · rw [hsame]
  · rw [hreread, hvalue, Json.mappingOrVacant_real hy, Json.mappingOrVacant_real hz]

/-- It makes the same entries, or fails in the same way. -/
theorem entries_reread (hkept : f.kept = f) : f.value.reread.entries = f.value.entries := by
  rcases reread_cases hkept with hsame | ⟨y, z, hvalue, hreread, hy, hz⟩
  · rw [hsame]
  · rw [hreread, hvalue, Json.entries_real hy, Json.entries_real hz]

end FreeForm

/-- The same authentication, owned by another record. -/
def Authentication.ownedBy (a : Authentication) (id : String) : Authentication :=
  { a with ownerId := some id }

namespace Store

variable {s t : Store}

/-! ### Stores with the same folders and workspaces -/

theorem get?_congr {k : Kind} (h : t.rows k = s.rows k) (id : String) :
    t.get? k id = s.get? k id := by
  unfold get?
  rw [h]

section sameRows

variable (hfolder : t.rows .folder = s.rows .folder)
  (hworkspace : t.rows .workspace = s.rows .workspace)
include hfolder hworkspace

theorem agreesAbove_of_rows (n : Node) : s.AgreesAbove t n where
  folder _ id _ _ := get?_congr hfolder id
  workspace id _ := get?_congr hworkspace id

/-- Such stores give every record the same authentication. -/
theorem requestAuthentication_congr (n : Node) :
    t.requestAuthentication n = s.requestAuthentication n := by
  have habove := agreesAbove_of_rows hfolder hworkspace
  have hfetch : ∀ id, t.fetch .folder (some id) = s.fetch .folder (some id) := fun id =>
    fetch_congr fun other _ => get?_congr hfolder other
  unfold requestAuthentication
  simp only [hfetch, (habove n).fetch_workspace, fun f : Row .folder =>
    (habove f.node).folderAuthentication_eq]

/-- Such stores give every record the same entries. -/
theorem requestEntries_congr (n : Node) : t.requestEntries n = s.requestEntries n := by
  have habove := agreesAbove_of_rows hfolder hworkspace
  have hfetch : ∀ id, t.fetch .folder (some id) = s.fetch .folder (some id) := fun id =>
    fetch_congr fun other _ => get?_congr hfolder other
  unfold requestEntries
  simp only [hfetch, (habove n).fetch_workspace, fun f : Row .folder =>
    (habove f.node).folderEntries_eq]

end sameRows

/-! ### A copy beside its source -/

namespace Copies

variable {p : Protocol} {r copy : Row (.request p)} {place : Float}

/-- The copy has the same entries of its own, or fails in the same way. -/
theorem node_entries (h : Copies r copy place) (hkept : r.data.settings.kept = r.data.settings) :
    copy.node.entries = r.node.entries := by
  have hsame : copy.data.settings.entries.value.entries =
      r.data.settings.entries.value.entries := by
    rw [h.entries]
    exact FreeForm.entries_reread (congrArg Settings.entries hkept)
  unfold Node.entries
  simp only [Row.node, hsame]

/-- The copy has the same authentication of its own but for the owner, or fails in the same
    way. -/
theorem node_authentication (h : Copies r copy place)
    (hkept : r.data.settings.kept = r.data.settings) :
    copy.node.authentication = r.node.authentication.map (·.ownedBy copy.id) := by
  have hsame : copy.data.settings.authentication.value.mappingOrVacant =
      r.data.settings.authentication.value.mappingOrVacant := by
    rw [h.authentication]
    exact FreeForm.mappingOrVacant_reread (congrArg Settings.authentication hkept)
  unfold Node.authentication
  simp only [Row.node, hsame, h.authenticationType]
  cases r.data.settings.authentication.value.mappingOrVacant <;> rfl

theorem node_setsType (h : Copies r copy place) : copy.node.setsType = r.node.setsType := by
  unfold Node.setsType
  simp only [Row.node, h.authenticationType]

/-- The copy has the same entries in the end, or fails in the same way. -/
theorem requestEntries_eq (h : Copies r copy place)
    (hkept : r.data.settings.kept = r.data.settings) (s : Store) :
    s.requestEntries copy.node = s.requestEntries r.node := by
  unfold requestEntries
  rw [h.node_entries hkept]
  simp only [Row.node, h.workspaceId, h.folderId]

/-- The copy has the same authentication in the end, or fails in the same way. It is the owner
    where its source is. -/
theorem requestAuthentication_eq (h : Copies r copy place)
    (hkept : r.data.settings.kept = r.data.settings) (s : Store) :
    s.requestAuthentication copy.node = (s.requestAuthentication r.node).map
      fun a => if r.node.setsType then a.ownedBy copy.id else a := by
  unfold requestAuthentication
  rw [h.node_setsType]
  cases r.node.setsType with
  | true => exact h.node_authentication hkept
  | false =>
    simp only [Row.node, h.workspaceId, h.folderId]
    exact (congrFun Except.map_id _).symm

end Copies

/-- What a record has of its own, it owns. -/
theorem ownerId_of_setsType {n : Node} (hsets : n.setsType = true) {a : Authentication}
    (h : s.requestAuthentication n = .ok a) : a.ownerId = n.id := by
  unfold requestAuthentication at h
  rw [if_pos hsets] at h
  unfold Node.authentication at h
  split at h
  · obtain rfl := Except.ok.inj h
    rfl
  · cases h

end Store

/-! ### Copying a request -/

namespace Catalog

/-- Wherever sessions get, when a stored request is copied under a new identifier and this does
    not fail, then the copy and its source have the same entries in the end, or fail in the same
    way, and the source has those that it had before. They have the same authentication in the
    end, or fail in the same way. The owner is the same as well, unless the source sets a type:
    then the source owns its own and the copy owns the one of the copy. -/
theorem Reached.copy_inherits {c : Catalog} (hc : c.Reached) {p : Protocol} {r : Row (.request p)}
    (hr : r ∈ c.store.rows (.request p)) (source : Source) (at? : Option Int)
    (hnew : c.store.holds ⟨.request p, c.nextId (.request p)⟩ = false) {outcome : Outcome}
    (hsucceeds : (TimedStep.take ⟨at?, .duplicate p (.stored r.id) source.name⟩ c).1.outcome =
      .ok outcome) :
    let after := (TimedStep.take ⟨at?, .duplicate p (.stored r.id) source.name⟩ c).2.store
    ∃ copy : Row (.request p), outcome = .row copy ∧
      after.rows (.request p) = c.store.rows (.request p) ++ [copy] ∧
      (after.requestEntries r.node = c.store.requestEntries r.node ∧
        after.requestEntries copy.node = after.requestEntries r.node) ∧
      (after.requestAuthentication r.node = c.store.requestAuthentication r.node ∧
        after.requestAuthentication copy.node = (after.requestAuthentication r.node).map
          fun a => if r.node.setsType then a.ownedBy copy.id else a) ∧
      ∀ a, r.node.setsType = true → after.requestAuthentication r.node = .ok a →
        a.ownerId = some r.id := by
  intro after
  obtain ⟨hdeep, hlost, hcopied⟩ := hc.copies_one hr source at? hnew
  have hkept : r.data.settings.kept = r.data.settings :=
    hc.settingsKept (.request p) r hr r.data.settings rfl
  -- what fails is not at issue
  have hheight : r.draft.data.height ≤ Sketch.greatestCopied := by
    by_contra hlarge
    obtain ⟨left, htake, -⟩ := hdeep (not_le.mp hlarge)
    rw [htake] at hsucceeds
    cases hsucceeds
  have hnumber : (c.store.placeAfter r).1.isNaN = false := by
    rw [Bool.eq_false_iff]
    intro hnan
    obtain ⟨left, htake, -⟩ := hlost hheight hnan
    rw [htake] at hsucceeds
    cases hsucceeds
  obtain ⟨copy, left, htake, -, -, -, hduplicates⟩ := hcopied hheight hnumber
  have hafter : after = left.store := congrArg (fun answer => answer.2.store) htake
  rw [htake] at hsucceeds
  obtain rfl := Except.ok.inj hsucceeds
  rw [hafter]
  have hfolder := hduplicates.others .folder (by simp)
  have hworkspace := hduplicates.others .workspace (by simp)
  exact ⟨copy, rfl, hduplicates.requests,
    ⟨Store.requestEntries_congr hfolder hworkspace _,
      hduplicates.copies.requestEntries_eq hkept left.store⟩,
    ⟨Store.requestAuthentication_congr hfolder hworkspace _,
      hduplicates.copies.requestAuthentication_eq hkept left.store⟩,
    fun a hsets => Store.ownerId_of_setsType hsets⟩

/-- The run of calls, and one more: a request with authentication of its own beside the one that
    has that of the outer folder. -/
def owning : Catalog :=
  (runFrom toured
    [.post "/api/http-requests" [("id", .text "own"), ("workspace_id", .text "w"),
      ("folder_id", .text "inner"), ("authentication_type", .text "basic"),
      ("authentication", .object [("username", .text "u")])]]).2

theorem owning_reached : owning.Reached := .runFrom toured_served.reached _

/-- Each of the requests can be copied, and the copy has the entries of its source in the end. The
    outer folder owns the authentication of the one copy, and the other copy owns its own. -/
theorem owning_copy_inherits :
    (owning.store.rows (.request .http)).map (fun r => (r.id, r.node.setsType)) =
      [("r", false), ("rq_0000000001", false), ("own", true)] ∧
    ∀ r ∈ owning.store.rows (.request .http), ∃ copy : Row (.request .http),
      let after :=
        (TimedStep.take ⟨none, .duplicate .http (.stored r.id) Source.window.name⟩
          owning).2.store
      after.rows (.request .http) = owning.store.rows (.request .http) ++ [copy] ∧
        after.requestEntries copy.node = owning.store.requestEntries r.node ∧
        (after.requestAuthentication copy.node).toOption.map Authentication.ownerId =
          some (if r.node.setsType then some copy.id else some "outer") := by
  refine ⟨by decide +kernel, fun r hr => ?_⟩
  have hall : ∀ r ∈ owning.store.rows (.request .http),
      (TimedStep.take ⟨none, .duplicate .http (.stored r.id) Source.window.name⟩
        owning).1.outcome.isOk = true ∧
        (owning.store.requestAuthentication r.node).toOption.map Authentication.ownerId =
          some (if r.node.setsType then some r.id else some "outer") := by decide +kernel
  obtain ⟨hsucceeds, howner⟩ := hall r hr
  obtain ⟨outcome, houtcome⟩ : ∃ outcome, (TimedStep.take
      ⟨none, .duplicate .http (.stored r.id) Source.window.name⟩ owning).1.outcome =
          .ok outcome := by
    cases houtcome : (TimedStep.take
        ⟨none, .duplicate .http (.stored r.id) Source.window.name⟩ owning).1.outcome with
    | ok outcome => exact ⟨outcome, rfl⟩
    | error e =>
      rw [houtcome] at hsucceeds
      cases hsucceeds
  obtain ⟨copy, -, hrows, ⟨hsource, hentries⟩, ⟨hbefore, hauthentication⟩, -⟩ :=
    owning_reached.copy_inherits hr .window none (by decide +kernel) houtcome
  refine ⟨copy, hrows, hentries.trans hsource, ?_⟩
  rw [hauthentication, hbefore]
  cases hfound : owning.store.requestAuthentication r.node with
  | error e =>
    rw [hfound] at howner
    cases howner
  | ok a =>
    rw [hfound] at howner
    cases hsets : r.node.setsType with
    | true => rfl
    | false =>
      rw [hsets] at howner
      exact howner

end Catalog

end RequestCatalog
