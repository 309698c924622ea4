import RequestCatalog.Proofs.Finding

/-! # Writing what a call sent

  A call that sends a record gives every column of it, so what is written is told by the
  call alone, with one exception: a free-form column that agrees with what it is given is
  not written again (`Columns.laidOver`).

  * `Store.candidate_of_sent` is the one account of the record that is written. It needs to
    know that stored settings are in the form in which they are kept, which holds wherever
    sessions get (`Catalog.Reached.settingsKept`).
  * `TimedStep.take_of_admitted` is the one account of the call, for all kinds of records at
    once: the record is written and shown if nothing stands against it.
-/

namespace RequestCatalog

/-! ### Settings that are kept -/

/-- The settings of a record, if it is of a kind that has some. -/
def Columns.settings? : {k : Kind} → Columns k → Option Settings
  | .workspace, w => some w.settings
  | .folder, f => some f.settings
  | .request _, r => some r.settings
  | .exchange _, _ => none

/-- The settings of a record that is written are kept ones. -/
theorem Sketch.kept_of_columns? {k : Kind} {d : Sketch k} {columns : Columns k}
    (h : d.columns? = .ok columns) :
    ∀ settings, Columns.settings? columns = some settings → settings.kept = settings := by
  intro settings hsettings
  cases k with
  | workspace =>
    cases hsettings
    rw [(columns?_workspace h).2, Settings.kept_kept]
  | folder =>
    cases hsettings
    rw [(columns?_folder h).2.2.2.2, Settings.kept_kept]
  | request p =>
    cases hsettings
    rw [(columns?_request h).2.2.2.2.2, Settings.kept_kept]
  | exchange p => cases hsettings

namespace Store

variable {s t : Store}

/-- All settings are in the form in which they are kept. -/
def SettingsKept (s : Store) : Prop :=
  ∀ k, ∀ row ∈ s.rows k, ∀ settings, Columns.settings? row.data = some settings →
    settings.kept = settings

theorem settingsKept_empty : empty.SettingsKept :=
  fun _ _ h => absurd h not_mem_rows_empty

theorem SettingsKept.change (hs : s.SettingsKept) (h : s.Change t) : t.SettingsKept := by
  cases h with
  | write hwrite _ =>
    obtain ⟨hcandidate, -, rfl⟩ := write_eq_ok_iff.mp hwrite
    intro l x hx
    rcases mem_rows_put_cases hx with hmem | heq
    · exact hs l x hmem
    · cases heq
      obtain ⟨completed, hcolumns⟩ := columns?_of_candidate hcandidate
      exact Sketch.kept_of_columns? hcolumns
  | delete key => exact fun k row hrow => hs k row (mem_rows_delete.mp hrow).1

end Store

/-- Wherever sessions get, all settings are in the form in which they are kept. -/
theorem Catalog.Reached.settingsKept {c : Catalog} (h : c.Reached) : c.store.SettingsKept :=
  h.store_induction Store.settingsKept_empty fun _ _ => Store.SettingsKept.change

/-! ### Settings in writing -/

namespace FreeForm

/-- No column holds a value that is not put in writing. -/
theorem keptValue_ne_loose (j other : Json) : keptValue j ≠ .loose other := by
  cases j with
  | int n => cases h : (Number.whole n).kept? <;> simp [keptValue, h]
  | real x => cases h : (Number.real x).kept? <;> simp [keptValue, h]
  | null | bool | text | list | object => simp [keptValue]

/-- What a column holds is a number, or in writing. -/
theorem eq_written {f : FreeForm} {j : Json} (hkept : f.kept = f) (hvalue : f.value = j)
    (hnumber : ∀ n, Json.ofNumber n ≠ j) : f = .written j := by
  cases f with
  | loose value => exact absurd hkept (keptValue_ne_loose value value)
  | written value => exact congrArg written hvalue
  | number n => exact absurd hvalue (hnumber n.number)

/-- What a column holds once it was given this, if it held `old` before. What agrees with what is
    held is not written again. -/
def laidOver (given old : FreeForm) : FreeForm :=
  if old.agrees given then old else given

/-- What was laid over something stays when it is given again. -/
theorem laidOver_laidOver (given old : FreeForm) :
    given.laidOver (given.laidOver old) = given.laidOver old := by
  unfold laidOver
  cases h : old.agrees given with
  | true => simp [h]
  | false => simp

/-- A value takes the place of one that agrees with it only if it is the same. -/
theorem laidOver_of_agrees {given old : FreeForm} (h : old.agrees given = true → old = given) :
    given.laidOver old = given := by
  unfold laidOver
  split
  · next hagrees => exact h hagrees
  · rfl

/-- Laid over itself, a value stays as it is. -/
theorem laidOver_self (f : FreeForm) : f.laidOver f = f :=
  laidOver_of_agrees fun _ => rfl

end FreeForm

/-- Settings as a body brings them and as a column holds them: an object and a list of complete
    entries, both in writing. -/
structure Settings.Written (s : Settings) : Prop where
  authentication : ∃ members, s.authentication = .written (.object members)
  entries : ∃ es, s.entries = .written (Api.Form.storedEntries es)

/-- The settings that a record has once it was given these, if it had others before. -/
def Settings.laidOver (given old : Settings) : Settings where
  authenticationType := given.authenticationType
  authentication := given.authentication.laidOver old.authentication
  entries := given.entries.laidOver old.entries

namespace Settings

variable {given old : Settings}

/-- What can be read and is kept is in writing. -/
theorem Proper.written (h : given.Proper) (hkept : given.kept = given) : given.Written := by
  obtain ⟨members, hmembers⟩ := h.authentication
  obtain ⟨es, hes⟩ := h.entries
  constructor
  · refine ⟨members, FreeForm.eq_written (congrArg Settings.authentication hkept) hmembers ?_⟩
    intro n
    cases n <;> exact Json.noConfusion
  · refine ⟨es, FreeForm.eq_written (congrArg Settings.entries hkept) hes ?_⟩
    intro n
    cases n <;> exact Json.noConfusion

/-- What was laid over something stays when it is given again. -/
theorem laidOver_laidOver : given.laidOver (given.laidOver old) = given.laidOver old := by
  simp only [laidOver, FreeForm.laidOver_laidOver]

end Settings

/-! ### Columns -/

/-- The form in which a number is kept as a priority: zero has no sign. -/
def Priority.unsigned (x : Float) : Float := if x == 0.0 then 0.0 else x

theorem Given.keptPriority_of_number {x : Float} (h : x.isNaN = false) :
    (value x).keptPriority = .value (Priority.unsigned x) := by
  rw [keptPriority_value, h, if_neg (by simp)]
  unfold Priority.unsigned
  split <;> rfl

namespace Columns

/-- The columns of a record that was sent, in the form in which they are kept. -/
def asKept : {k : Kind} → Columns k → Columns k
  | .folder, f => { f with sortPriority := Priority.unsigned f.sortPriority }
  | .request _, r => { r with sortPriority := Priority.unsigned r.sortPriority }
  | .workspace, w => w
  | .exchange _, e => e

/-- The columns that a record has once it was given these, if it had others before. A free-form
    column that agrees with what it holds is not written again. -/
def laidOver : {k : Kind} → (given old : Columns k) → Columns k
  | .workspace, given, old => { given with settings := given.settings.laidOver old.settings }
  | .folder, given, old => { given with settings := given.settings.laidOver old.settings }
  | .request _, given, old => { given with settings := given.settings.laidOver old.settings }
  | .exchange _, given, _ => given

variable {k : Kind} {given old : Columns k}

theorem laidOver_laidOver : given.laidOver (given.laidOver old) = given.laidOver old := by
  cases k with
  | exchange p => rfl
  | workspace | folder | request p => simp only [laidOver, Settings.laidOver_laidOver]

/-- Laid over themselves, columns stay as they are. -/
theorem laidOver_self : given.laidOver given = given := by
  cases k with
  | exchange p => rfl
  | workspace | folder | request p =>
    simp only [laidOver, Settings.laidOver, FreeForm.laidOver_self]

/-- All settings of the record are in writing. -/
def Written (given : Columns k) : Prop :=
  ∀ settings, settings? given = some settings → settings.Written

end Columns

section columns

variable {k : Kind} {given old : Columns k}

/-- A call that gives every column is complete. -/
theorem Call.columns?_sketch {p : Protocol} (c : Call p) :
    Call.Sketch.columns? (Call.sketch c) = .ok c := by
  cases p with
  | http =>
    simp [Call.Sketch.columns?, Call.sketch, Given.required]
    rfl
  | grpc =>
    simp [Call.Sketch.columns?, Call.sketch, Given.required]
    rfl

theorem Call.Sketch.filledFrom_sketch {p : Protocol} (c : Call p) :
    Call.Sketch.over Given.filledFrom (Call.sketch c) (Call.defaults p) = Call.sketch c := by
  cases p <;> simp [Call.Sketch.over, Call.sketch, Call.defaults]

end columns

/-! ### The record that is written -/

namespace Api

variable {k : Kind} {form : Form k}

theorem Form.SettingsSent.written {members : List (Text × Json)} {name : String} {s : Settings}
    (h : Form.SettingsSent members name s) : s.Written := by
  obtain ⟨auth, hauth, hauthValue⟩ := h.authentication
  obtain ⟨entries, hentries, hentriesValue⟩ := h.entries
  obtain ⟨found, rfl⟩ := Form.authentication_sound hauth
  obtain ⟨es, rfl⟩ := Form.entries_sound hentries
  exact ⟨⟨found, hauthValue⟩, ⟨es, hentriesValue⟩⟩

end Api

namespace Store

variable {s : Store} {k : Kind} {form : Api.Form k} {row : Row k}

/-- The record that a record that was sent becomes under this identifier. -/
def Becomes (s : Store) (form : Api.Form k) (id : String) (now : Instant) (row : Row k) : Prop :=
  row.id = id ∧ row.updatedAt = now ∧
    (∀ old, s.get? k id = some old →
      row.createdAt = old.createdAt ∧ row.data = form.data.asKept.laidOver old.data) ∧
    (s.get? k id = none → row.createdAt = now ∧ row.data = form.data.asKept)

end Store

/-! ### The call -/

namespace Api

variable {k : Kind} {form : Form k} {call : Incoming} {members : List (Text × Json)}

theorem Form.admitted_iff {s : Store} : form.Admitted s ↔ form.permit s = .ok () := by
  cases k with
  | workspace | exchange p => exact iff_of_true trivial rfl
  | folder | request p => exact Iff.rfl

end Api

section call

open Api

variable {k : Kind} {form : Form k} {incoming : Incoming} {command : Command} {c : Catalog}
  (hgives : incoming.Gives command) (hform : command.form? = some ⟨k, form⟩)

include hgives hform

/-- A call that sends a record that nothing stands against: the record is written, and shown if
    it can be. -/
theorem TimedStep.take_of_admitted (hadmitted : form.Admitted c.store) (hsound : form.garbled = [])
    (hid : form.id ≠ "") (at? : Option Int) :
    ∃ row c', c.store.candidate form.id form.draft.data
        (before ⟨at?, .call incoming⟩ c).now = .ok row ∧
      take ⟨at?, .call incoming⟩ c =
        (⟨.ok (.reply (.showing 200 (shownRow? row))), c'.journal⟩, c') ∧
      c'.store = c.store.put row := by
  let b := before ⟨at?, .call incoming⟩ c
  have hsent : form.Sent := hgives.sound _ form hform
  -- the record is written under the identifier that it names
  have hnamed : b.idFor form.draft = form.id := by
    simp [Catalog.idFor, form.named?_draft, hid]
  obtain ⟨row, t, hwrite⟩ := Store.exists_write hsent hadmitted form.id b.now
  obtain ⟨hcandidate, -, rfl⟩ := Store.write_eq_ok_iff.mp hwrite
  obtain ⟨source, hfind⟩ := Command.find_of_form hform
  have hpermit : form.permit b.store = .ok () := Form.admitted_iff.mp hadmitted
  have hconsult : Op.consult form.permit b = .ok () b := by
    rw [Op.run_consult, hpermit]
  rw [← hnamed] at hwrite
  obtain ⟨c', hwritten, hstore⟩ : ∃ c', form.write source.name b = .ok row c' ∧
      c'.store = c.store.put row :=
    ⟨_, (form.run_write_of_sound source.name b hsound).trans
      (Op.run_upsert_of_write form.draft b source (Form.draft_fits_of_sent hsent) hwrite), rfl⟩
  have hfound : command.find b = .ok (.record 200 row) c' := by
    rw [hfind, Op.run_bind_of_ok hconsult, Op.run_bind_of_ok hwritten]
    rfl
  have hrun : command.run b = .ok (.showing 200 (shownRow? row)) c' := by
    rw [command.run_eq]
    exact Op.run_map_of_ok hfound Found.reply
  exact ⟨row, c', hcandidate, take_call_of_ok hgives hrun, hstore⟩

end call

end RequestCatalog
