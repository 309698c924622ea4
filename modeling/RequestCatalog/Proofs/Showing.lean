import RequestCatalog.Proofs.ProperSettings

/-! # Records that can be shown

  A reply shows a stored record if the record fits the form in which records are shown.
  Most of what that asks for holds wherever calls get, because callers are asked for the
  same things:

  * what is stored of entries is read back as it was written (`headerEntries_storedEntries`);
  * methods and body types are known ones, and the priorities of folders are finite
    (`Columns.Fits`).

  Three things may still be wrong: the priority of a request may be infinite, the
  authentication may be nested too deep, and free-form values may have garbled texts in them.
  `shownRow?_isSome_iff` says that nothing else is.
-/

namespace RequestCatalog

/-! ### Priorities -/

namespace Priority

theorem isNaN_of_isFinite {x : Float} (h : x.isFinite = true) : x.isNaN = false := by
  have h : x.toModel.unpack.isFinite = true := h
  show x.toModel.unpack.isNaN = false
  cases hx : x.toModel.unpack with
  | notANumber => rw [hx] at h; cases h
  | _ => rfl

/-- What is kept of a finite priority is finite. -/
theorem isFinite_of_kept {x y : Float} (h : (Given.value x).keptPriority = .value y)
    (hx : x.isFinite = true) : y.isFinite = true := by
  rw [Given.keptPriority_value] at h
  split at h
  · cases h
  · split at h
    · cases h
      decide +kernel
    · cases h
      exact hx

end Priority

namespace Api

open Checked

/-- A priority that passed the check is finite. -/
theorem priority_sound {j : Json} {x : Float} (h : priority j = .sound x) : x.isFinite = true := by
  have hfinite : ∀ y, finite y = .sound x → x.isFinite = true := by
    intro y hy
    unfold finite at hy
    split at hy
    · cases hy
      assumption
    · cases hy
  cases j with
  | int n =>
    simp only [priority] at h
    split at h
    · cases h
      assumption
    · cases h
  | real y => exact hfinite y h
  | bool b =>
    cases h
    cases b <;> decide +kernel
  | text t =>
    cases t with
    | sound s =>
      simp only [priority] at h
      split at h
      · exact hfinite _ h
      · cases h
    | garbled => cases h
  | null | list | object => cases h

theorem priority_of_sound {members : List (Text × Json)} {x : Float}
    (h : optional members "sort_priority" 0.0 priority = .sound x) : x.isFinite = true := by
  rcases optional_eq_sound h with rfl | ⟨j, -, hj⟩
  · decide +kernel
  · exact priority_sound hj

/-! ### Texts of a choice -/

theorem oneOf_eq_sound_iff {choices : List String} {flaw : Flaw} {j : Json} {s : String} :
    oneOf choices flaw j = .sound s ↔ j = .text s ∧ s ∈ choices := by
  cases j with
  | text t =>
    cases t with
    | sound t =>
      by_cases h : choices.contains t = true
      · rw [oneOf, if_pos h]
        constructor
        · rintro ⟨⟩
          exact ⟨rfl, List.contains_iff_mem.mp h⟩
        · rintro ⟨⟨⟩, -⟩
          rfl
      · rw [oneOf, if_neg h]
        refine iff_of_false (fun hsound => by cases hsound) ?_
        rintro ⟨⟨⟩, hmem⟩
        exact h (List.contains_iff_mem.mpr hmem)
    | garbled => exact iff_of_false (fun hsound => by cases hsound) (fun h => by cases h.1)
  | _ => exact iff_of_false (fun hsound => by cases hsound) (fun h => by cases h.1)

theorem oneOfOrNull_eq_sound_iff {choices : List String} {flaw : Flaw} {j : Json}
    {o : Option String} :
    oneOfOrNull choices flaw j = .sound o ↔ j = .ofText? o ∧ ∀ s, o = some s → s ∈ choices := by
  by_cases hnull : j = .null
  · subst hnull
    cases o with
    | none => exact iff_of_true rfl ⟨rfl, by simp⟩
    | some s => exact iff_of_false (fun h => by cases h) (fun h => by cases h.1)
  · have hcheck : oneOfOrNull choices flaw j = some <$> oneOf choices flaw j := by
      cases j <;> first | rfl | exact absurd rfl hnull
    rw [hcheck, map_eq_sound_iff]
    constructor
    · rintro ⟨s, hs, rfl⟩
      obtain ⟨rfl, hmem⟩ := oneOf_eq_sound_iff.mp hs
      exact ⟨rfl, by simpa using hmem⟩
    · rintro ⟨rfl, hmem⟩
      cases o with
      | none => exact absurd rfl hnull
      | some s => exact ⟨s, oneOf_eq_sound_iff.mpr ⟨rfl, hmem s rfl⟩, rfl⟩

/-! ### Entries -/

/-- A complete entry is read back as it was written. -/
theorem headerEntry_toJson (e : HeaderEntry) : headerEntry e.toJson = .sound e := by
  obtain ⟨name, value, enabled, id⟩ := e
  cases id <;> rfl

theorem headerEntriesFrom_toJson (es : List HeaderEntry) (position : Nat) :
    headerEntriesFrom position (es.map HeaderEntry.toJson) = .sound es := by
  induction es generalizing position with
  | nil => rfl
  | cons e rest ih =>
    rw [List.map_cons, headerEntriesFrom, headerEntry_toJson, ih]
    rfl

/-- Stored entries are read back as they were written. -/
theorem headerEntries_storedEntries (es : List HeaderEntry) :
    headerEntries (Form.storedEntries es) = .sound es :=
  headerEntriesFrom_toJson es 0

end Api

/-! ### Settings -/

/-- Settings that can be shown: not too many values stand inside each other in the
    authentication, and no text in them is garbled. -/
structure Settings.Presentable (s : Settings) : Prop where
  height : s.authentication.value.height ≤ Api.greatestHeight + 1
  authentication : s.authentication.value.isSound = true
  entries : s.entries.value.isSound = true

namespace Api

open Checked

theorem shownPriority?_isSome_iff (x : Float) :
    (shownPriority? x).isSome = true ↔ x.isFinite = true := by
  unfold shownPriority?
  split <;> simp_all

theorem shownAuthentication?_isSome_iff (members : List (Text × Json)) :
    (shownAuthentication? (.object members)).isSome = true ↔
      (Json.object members).height ≤ greatestHeight + 1 ∧
        (Json.object members).isSound = true := by
  rw [shownAuthentication?, Json.height, Nat.add_le_add_iff_right, Json.isSound]
  split
  · next h => exact iff_of_true rfl h
  · next h => exact iff_of_false (by simp) h

theorem shownEntries?_storedEntries (es : List HeaderEntry) :
    shownEntries? (Form.storedEntries es) =
      if (Form.storedEntries es).isSound then some (Form.storedEntries es) else none := by
  rw [shownEntries?, headerEntries_storedEntries]
  rfl

/-- Settings that can be read are shown unless the authentication is nested too deep or a text is
    garbled. -/
theorem shownSettings?_isSome_iff {s : Settings} (h : s.Proper) (name : String) :
    (shownSettings? name s).isSome = true ↔ s.Presentable := by
  obtain ⟨members, hmembers⟩ := h.authentication
  obtain ⟨es, hes⟩ := h.entries
  have hauth := shownAuthentication?_isSome_iff members
  have hpresentable : s.Presentable ↔ (shownAuthentication? (.object members)).isSome = true ∧
      (Form.storedEntries es).isSound = true := by
    rw [hauth, ← hmembers, ← hes]
    exact ⟨fun h => ⟨⟨h.height, h.authentication⟩, h.entries⟩, fun h => ⟨h.1.1, h.1.2, h.2⟩⟩
  rw [hpresentable, shownSettings?, hmembers, hes, shownEntries?_storedEntries]
  cases shownAuthentication? (.object members) <;> cases (Form.storedEntries es).isSound <;> simp

/-! ### Records -/

/-- The method and the body type of an HTTP request are known ones. -/
def FittingCall : {p : Protocol} → Call p → Prop
  | .http, c => c.method ∈ Form.methods ∧ ∀ type, c.bodyType = some type → type ∈ Form.bodyTypes
  | .grpc, _ => True

theorem shownCall?_isSome {p : Protocol} {c : Call p} (h : FittingCall c) :
    (shownCall? c).isSome = true := by
  cases p with
  | http =>
    have hmethod : oneOf Form.methods .notMethod (.text c.method) = .sound c.method :=
      oneOf_eq_sound_iff.mpr ⟨rfl, h.1⟩
    have htype : oneOfOrNull Form.bodyTypes .notBodyType (.ofText? c.bodyType) =
        .sound c.bodyType := oneOfOrNull_eq_sound_iff.mpr ⟨rfl, h.2⟩
    simp only [shownCall?, hmethod, htype]
    rfl
  | grpc => rfl

/-- A call that was sent fits. -/
theorem fittingCall_of_sound {p : Protocol} {members : List (Text × Json)} {c : Call p}
    (h : Form.call p members = .sound c) : FittingCall c := by
  cases p with
  | http =>
    have hcall : Form.httpCall members = .sound c := h
    simp only [Form.httpCall, seq_eq_sound_iff, map_eq_sound_iff] at hcall
    obtain ⟨_, body, ⟨_, bodyType, ⟨_, url, ⟨method, hmethod, rfl⟩, -, rfl⟩, htype, rfl⟩, -,
      rfl⟩ := hcall
    constructor
    · rcases optional_eq_sound hmethod with rfl | ⟨j, -, hj⟩
      · show "GET" ∈ Form.methods
        decide
      · exact (oneOf_eq_sound_iff.mp hj).2
    · rcases optional_eq_sound htype with rfl | ⟨j, -, hj⟩
      · simp
      · exact (oneOfOrNull_eq_sound_iff.mp hj).2
  | grpc => trivial

end Api

/-- The columns fit the form in which records are shown, whatever the priority of a request and
    the settings are. -/
def Columns.Fits : {k : Kind} → Columns k → Prop
  | .folder, f => f.sortPriority.isFinite = true
  | .request _, r => Api.FittingCall r.call
  | .workspace, _ | .exchange _, _ => True

/-- The settings of the record can be shown. -/
def Columns.Presentable : {k : Kind} → Columns k → Prop
  | .workspace, w => w.settings.Presentable
  | .folder, f => f.settings.Presentable
  | .request _, r => r.settings.Presentable
  | .exchange _, _ => True

namespace Api

/-- A record that was sent fits. -/
theorem Form.fits_of_sent {k : Kind} {form : Form k} (h : form.Sent) : form.data.Fits := by
  cases k with
  | workspace => trivial
  | folder =>
    obtain ⟨members, h, -⟩ := h
    exact priority_of_sound (Form.folder_sound h).sortPriority
  | request p =>
    obtain ⟨members, h, -⟩ := h
    exact fittingCall_of_sound (Form.request_sound h).call
  | exchange p => exact (Form.not_sent h).elim

/-- A stored workspace, folder or request is shown exactly if its priority is finite and its
    settings can be shown. -/
theorem shownRow?_isSome_iff {k : Kind} {row : Row k} (hkind : ∀ p, k ≠ .exchange p)
    (hproper : row.data.Proper) (hfits : row.data.Fits) :
    (shownRow? row).isSome = true ↔
      (∀ x, Columns.priority? row.data = some x → x.isFinite = true) ∧ row.data.Presentable := by
  have hrow : (shownRow? row).isSome = (shownColumns? row.data).isSome := by
    unfold shownRow?
    cases shownColumns? row.data <;> rfl
  rw [hrow]
  cases k with
  | workspace =>
    have hsettings := shownSettings?_isSome_iff hproper "headers"
    simp only [shownColumns?, Columns.priority?, Columns.Presentable, ← hsettings]
    cases shownSettings? "headers" row.data.settings <;> simp
  | folder =>
    have hsettings := shownSettings?_isSome_iff hproper "headers"
    have hpriority := shownPriority?_isSome_iff row.data.sortPriority
    simp only [shownColumns?, Columns.priority?, Columns.Presentable, ← hsettings,
        Option.some.injEq,
      forall_eq', ← hpriority]
    cases shownPriority? row.data.sortPriority <;>
      cases shownSettings? "headers" row.data.settings <;> simp
  | request p =>
    have hsettings := shownSettings?_isSome_iff hproper (shownEntriesName p)
    have hpriority := shownPriority?_isSome_iff row.data.sortPriority
    obtain ⟨call, hcall⟩ := Option.isSome_iff_exists.mp (shownCall?_isSome hfits)
    simp only [shownColumns?, Columns.priority?, Columns.Presentable, ← hsettings,
        Option.some.injEq,
      forall_eq', ← hpriority, hcall]
    cases shownPriority? row.data.sortPriority <;>
      cases shownSettings? (shownEntriesName p) row.data.settings <;> simp
  | exchange p => exact absurd rfl (hkind p)

/-- Several records are shown exactly if each of them is. -/
theorem shownRows?_isSome_iff {k : Kind} {rows : List (Row k)} :
    (shownRows? rows).isSome = true ↔ ∀ row ∈ rows, (shownRow? row).isSome = true := by
  have hrows : (shownRows? rows).isSome = (rows.mapM shownRow?).isSome := by
    unfold shownRows?
    cases rows.mapM shownRow? <;> rfl
  rw [hrows]
  clear hrows
  induction rows with
  | nil => simp
  | cons row rest ih =>
    rw [List.mapM_cons, List.forall_mem_cons]
    cases hrow : shownRow? row with
    | none => simp
    | some j =>
      refine Iff.trans ?_ (and_congr_right fun _ => ih)
      cases rest.mapM shownRow? <;> simp

end Api

/-! ### What calls store fits -/

namespace Store

variable {s t : Store}

/-- Every record fits the form in which records are shown. -/
def Fits (s : Store) : Prop :=
  ∀ k, ∀ row ∈ s.rows k, row.data.Fits

theorem fits_empty : empty.Fits :=
  fun _ _ h => absurd h not_mem_rows_empty

theorem Fits.put (hs : s.Fits) {k : Kind} {row : Row k} (hrow : row.data.Fits) :
    (s.put row).Fits := by
  intro l x hx
  rcases mem_rows_put_cases hx with hmem | heq
  · exact hs l x hmem
  · cases heq
    exact hrow

theorem Fits.commit (hs : s.Fits) (h : s.Commit t) : t.Fits := by
  cases h with
  | @write k form id now row _ hsent _ _ hwrite _ _ =>
    obtain ⟨hcandidate, -, rfl⟩ := write_eq_ok_iff.mp hwrite
    have hform := Api.Form.fits_of_sent hsent
    refine hs.put ?_
    cases k with
    | workspace | exchange p => trivial
    | folder => exact Priority.isFinite_of_kept (priority_of_candidate hcandidate rfl rfl) hform
    | request p =>
      show Api.FittingCall row.data.call
      rw [call_of_candidate hcandidate rfl]
      exact hform
  | @copy p r row id place now _ hr _ hwrite _ =>
    obtain ⟨hcandidate, -, rfl⟩ := write_eq_ok_iff.mp hwrite
    refine hs.put ?_
    show Api.FittingCall row.data.call
    rw [call_of_candidate hcandidate (Op.copyAt_call r place)]
    exact hs _ r hr
  | delete key => exact fun k row hrow => hs k row (mem_rows_delete.mp hrow).1

end Store

/-- Wherever calls get, every record fits the form in which records are shown. -/
theorem Catalog.Served.fits {c : Catalog} (h : c.Served) : c.store.Fits :=
  h.store_induction Store.fits_empty fun _ _ _ hs => hs.commit

end RequestCatalog
