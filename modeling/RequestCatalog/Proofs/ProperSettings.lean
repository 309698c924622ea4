import RequestCatalog.Inheritance
import RequestCatalog.Proofs.Served

/-! # Settings in their proper form

  A free-form column takes any value, and reading it as a mapping or as a list of
  mappings may fail. Callers send proper values only: authentication is an object,
  and entries are a list of complete entries. The tables keep such values as they
  are, and a copy has the values of its source. So settings are proper wherever
  calls get, and reading them gives back what was sent.
-/

namespace RequestCatalog

/-! ### Proper values -/

/-- Authentication that can be read: an object. -/
def FreeForm.IsObject (f : FreeForm) : Prop :=
  ∃ members, f.value = .object members

/-- Entries that can be read: a list of complete entries. -/
def FreeForm.IsEntries (f : FreeForm) : Prop :=
  ∃ es : List Api.HeaderEntry, f.value = Api.Form.storedEntries es

namespace FreeForm

/-- Complete entries are objects. -/
theorem IsEntries.objects {f : FreeForm} (h : f.IsEntries) :
    ∃ items : List (List (Text × Json)), f.value = .list (items.map .object) := by
  obtain ⟨es, h⟩ := h
  let members (e : Api.HeaderEntry) : List (Text × Json) :=
    [("name", .text e.name), ("value", .text e.value), ("enabled", .bool e.enabled),
      ("id", e.id.elim .null .text)]
  refine ⟨es.map members, ?_⟩
  rw [h, List.map_map]
  rfl

theorem IsObject.kept {f : FreeForm} (h : f.IsObject) : f.kept.IsObject := by
  obtain ⟨members, h⟩ := h
  refine ⟨members, ?_⟩
  cases f with
  | loose j => subst h; rfl
  | written j => subst h; rfl
  | number n => exact h

theorem IsEntries.kept {f : FreeForm} (h : f.IsEntries) : f.kept.IsEntries := by
  obtain ⟨es, h⟩ := h
  refine ⟨es, ?_⟩
  cases f with
  | loose j => subst h; rfl
  | written j => subst h; rfl
  | number n => exact h

/-- Authentication that can be read is not nothing. -/
theorem IsObject.null_agrees {f : FreeForm} (h : f.IsObject) :
    (written .null).agrees f = false := by
  obtain ⟨members, h⟩ := h
  unfold agrees
  rw [h]
  simp [FreeForm.value, Json.agrees, Json.number?]

/-- Entries that can be read are not nothing. -/
theorem IsEntries.null_agrees {f : FreeForm} (h : f.IsEntries) :
    (written .null).agrees f = false := by
  obtain ⟨items, h⟩ := h.objects
  unfold agrees
  rw [h]
  simp [FreeForm.value, Json.agrees, Json.number?]

/-- What is laid over a value is the given value or the old one. -/
theorem laid_some {P : FreeForm → Prop} {given : Option FreeForm} {old : FreeForm}
    (hgiven : ∀ f, given = some f → P f) (hold : P old) :
    ∃ f, laid given (some old) = some f ∧ P f := by
  cases given with
  | none => exact ⟨old, rfl, hold⟩
  | some f =>
    refine ⟨_, rfl, ?_⟩
    split
    · exact hold
    · exact hgiven f rfl

end FreeForm

/-- Settings that can be read. -/
structure Settings.Proper (s : Settings) : Prop where
  authentication : s.authentication.IsObject
  entries : s.entries.IsEntries

/-- Settings of a draft that can be read as far as they are given. -/
structure Settings.Sketch.Proper (d : Settings.Sketch) : Prop where
  authentication : ∀ f, d.authentication = some f → f.IsObject
  entries : ∀ f, d.entries = some f → f.IsEntries

/-- The settings of a draft are all given and can be read. -/
def Settings.Sketch.Full (d : Settings.Sketch) : Prop :=
  ∃ s : Settings, s.Proper ∧ d = s.sketch

namespace Settings

theorem Sketch.Full.proper {d : Settings.Sketch} (h : d.Full) : d.Proper := by
  obtain ⟨s, hs, rfl⟩ := h
  constructor
  · intro f hf
    obtain rfl := Option.some.inj hf
    exact hs.authentication
  · intro f hf
    obtain rfl := Option.some.inj hf
    exact hs.entries

theorem defaults_full : defaults.Full :=
  ⟨⟨Option.none, .written (.object []), .written (.list [])⟩, ⟨⟨[], rfl⟩, ⟨[], rfl⟩⟩, rfl⟩

/-- What is completed over full settings can be read. -/
theorem Sketch.Proper.over {d base : Settings.Sketch} (rule : ColumnRule) (hd : d.Proper)
    (hbase : base.Full) : (d.over rule base).complete.kept.Proper := by
  obtain ⟨s, hs, rfl⟩ := hbase
  obtain ⟨a, ha, haproper⟩ := FreeForm.laid_some hd.authentication hs.authentication
  obtain ⟨e, he, heproper⟩ := FreeForm.laid_some hd.entries hs.entries
  constructor
  · simpa [Settings.kept, Sketch.complete, Sketch.over, Settings.sketch, ha] using haproper.kept
  · simpa [Settings.kept, Sketch.complete, Sketch.over, Settings.sketch, he] using heproper.kept

/-- A copy of settings that can be read has their values. -/
theorem Proper.copy {s : Settings} (h : s.Proper) :
    (s.sketch.over Given.laidOver blank).copy.Proper := by
  have hauth := h.authentication.null_agrees
  have hentries := h.entries.null_agrees
  constructor
  · intro f hf
    obtain rfl : s.authentication.loosened = f := by
      simpa [Sketch.copy, Sketch.over, Settings.sketch, blank, FreeForm.laid, hauth] using hf
    exact h.authentication
  · intro f hf
    obtain rfl : s.entries.loosened = f := by
      simpa [Sketch.copy, Sketch.over, Settings.sketch, blank, FreeForm.laid, hentries] using hf
    exact h.entries

end Settings

/-! ### Proper records -/

/-- The columns of a record that can be read. -/
def Columns.Proper : {k : Kind} → Columns k → Prop
  | .workspace, w => w.settings.Proper
  | .folder, f => f.settings.Proper
  | .request _, r => r.settings.Proper
  | .exchange _, _ => True

/-- A draft that can be read as far as it goes. -/
def Sketch.Proper : {k : Kind} → Sketch k → Prop
  | .workspace, d => d.settings.Proper
  | .folder, d => d.settings.Proper
  | .request _, d => d.settings.Proper
  | .exchange _, _ => True

/-- A draft that gives settings that can be read. -/
def Sketch.Full : {k : Kind} → Sketch k → Prop
  | .workspace, d => d.settings.Full
  | .folder, d => d.settings.Full
  | .request _, d => d.settings.Full
  | .exchange _, _ => True

namespace Sketch

variable {k : Kind}

theorem Full.proper {d : Sketch k} (h : d.Full) : d.Proper := by
  cases k with
  | exchange p => trivial
  | workspace | folder | request p => exact Settings.Sketch.Full.proper h

theorem full_sketch {columns : Columns k} (h : columns.Proper) :
    Full (Columns.sketch columns) := by
  cases k with
  | exchange p => trivial
  | workspace | folder | request p => exact ⟨_, h, rfl⟩

theorem full_defaults : Full (Columns.defaults k) := by
  cases k with
  | exchange p => trivial
  | workspace | folder | request p => exact Settings.defaults_full

/-- A record that comes from a proper draft over a full one can be read. -/
theorem proper_of_over {rule : ColumnRule} {d base : Sketch k} {columns : Columns k}
    (hd : d.Proper) (hbase : base.Full) (h : (d.over rule base).columns? = .ok columns) :
    columns.Proper := by
  cases k with
  | workspace =>
    show Settings.Proper columns.settings
    rw [(columns?_workspace h).2]
    exact hd.over rule hbase
  | folder =>
    show Settings.Proper columns.settings
    rw [(columns?_folder h).2.2.2.2]
    exact hd.over rule hbase
  | request p =>
    show Settings.Proper columns.settings
    rw [(columns?_request h).2.2.2.2.2]
    exact hd.over rule hbase
  | exchange p => trivial

end Sketch

namespace Store

/-- Every record can be read. -/
def Proper (s : Store) : Prop :=
  ∀ k, ∀ row ∈ s.rows k, row.data.Proper

theorem proper_empty : empty.Proper :=
  fun _ _ h => absurd h not_mem_rows_empty

variable {s t : Store}

theorem Proper.write (hs : s.Proper) {k : Kind} {id : String} {d : Sketch k} {now : Instant}
    {row : Row k} (hd : d.Proper) (h : s.write id d now = .ok (row, t)) : t.Proper := by
  obtain ⟨hcandidate, -, rfl⟩ := write_eq_ok_iff.mp h
  intro l x hx
  rcases mem_rows_put_cases hx with hmem | heq
  · exact hs l x hmem
  · cases heq
    -- the draft is completed from the old record or from the defaults
    obtain ⟨-, -, ⟨old, hget, -, hcolumns⟩ | ⟨-, -, hcolumns⟩⟩ := candidate_cases hcandidate
    · exact Sketch.proper_of_over hd (Sketch.full_sketch (hs k old (mem_of_get? hget))) hcolumns
    · exact Sketch.proper_of_over hd Sketch.full_defaults hcolumns

end Store

/-! ### What callers send -/

namespace Api

open Checked

/-- A field that may be left out has the default or what the check accepted. -/
theorem optional_eq_sound {α : Type} {members : List (Text × Json)} {name : String}
    {default a : α} {check : Json → Checked α}
    (h : optional members name default check = .sound a) :
    a = default ∨ ∃ j, members.lookup (.sound name) = some j ∧ check j = .sound a := by
  unfold optional at h
  split at h
  · next j hlookup => exact .inr ⟨j, hlookup, within_eq_sound_iff.mp h⟩
  · cases h
    exact .inl rfl

theorem Form.authentication_sound {members : List (Text × Json)} {j : Json}
    (h : Form.authentication members = .sound j) : ∃ found, j = .object found := by
  rcases optional_eq_sound h with rfl | ⟨sent, -, hsent⟩
  · exact ⟨[], rfl⟩
  · unfold mapping at hsent
    split at hsent
    · cases hsent
      exact ⟨_, rfl⟩
    · cases hsent

theorem Form.entries_sound {members : List (Text × Json)} {name : String} {j : Json}
    (h : Form.entries members name = .sound j) : ∃ es, j = Form.storedEntries es := by
  obtain ⟨es, -, rfl⟩ := map_eq_sound_iff.mp h
  exact ⟨es, rfl⟩

/-- Settings that passed the check can be read. -/
theorem Form.SettingsSent.proper {members : List (Text × Json)} {name : String} {s : Settings}
    (h : Form.SettingsSent members name s) : s.Proper := by
  obtain ⟨auth, hauth, hauthValue⟩ := h.authentication
  obtain ⟨entries, hentries, hentriesValue⟩ := h.entries
  obtain ⟨found, rfl⟩ := Form.authentication_sound hauth
  obtain ⟨es, rfl⟩ := Form.entries_sound hentries
  exact ⟨⟨found, by rw [hauthValue]; rfl⟩, ⟨es, by rw [hentriesValue]; rfl⟩⟩

/-- A record that was sent can be read. -/
theorem Form.proper_of_sent {k : Kind} {form : Form k} (h : form.Sent) : form.data.Proper := by
  cases k with
  | workspace =>
    obtain ⟨members, h, -⟩ := h
    exact (Form.workspace_sound h).settings.proper
  | folder =>
    obtain ⟨members, h, -⟩ := h
    exact (Form.folder_sound h).settings.proper
  | request p =>
    obtain ⟨members, h, -⟩ := h
    exact (Form.request_sound h).settings.proper
  | exchange p => exact (Form.not_sent h).elim

/-- Authentication that was sent stands in the body, so it can be put in writing if the body can. -/
theorem Form.obstacle?_authentication {members : List (Text × Json)} {j : Json} {room : Nat}
    (hbody : (Json.object members).obstacle? room = none)
    (h : Form.authentication members = .sound j) : j.obstacle? room = none := by
  rcases optional_eq_sound h with rfl | ⟨sent, hlookup, hsent⟩
  · cases room with
    | zero => simp [Json.obstacle?] at hbody
    | succ room => simp [Json.obstacle?, Json.obstacleOfMembers?]
  · obtain rfl : sent = j := by
      cases sent <;> cases hsent
      rfl
    obtain ⟨-, hmembers⟩ := Json.obstacle?_object_eq_none_iff.mp hbody
    obtain ⟨before, after, rfl, -⟩ := List.lookup_eq_some_iff.mp hlookup
    exact Json.obstacle?_mono (Nat.sub_le ..) (hmembers (.sound "authentication", sent) (by simp))

/-- Entries that are stored can be put in writing. -/
theorem Form.obstacle?_storedEntries (es : List HeaderEntry) {room : Nat} (hroom : 2 ≤ room) :
    (Form.storedEntries es).obstacle? room = none := by
  refine Json.obstacle?_list_eq_none_iff.mpr ⟨by omega, fun j hj => ?_⟩
  obtain ⟨e, -, rfl⟩ := List.mem_map.mp hj
  refine Json.obstacle?_object_eq_none_iff.mpr ⟨by omega, ?_⟩
  obtain ⟨name, value, enabled, id⟩ := e
  cases id <;> simp [Json.obstacle?]

/-- Settings that were sent can be put in writing. -/
theorem Form.SettingsSent.obstacle? {members : List (Text × Json)} {name : String} {s : Settings}
    (h : Form.SettingsSent members name s)
    (hbody : (Json.object members).obstacle? Payload.greatestNesting = none) :
    s.sketch.obstacle? = none := by
  obtain ⟨auth, hauth, hauthValue⟩ := h.authentication
  obtain ⟨entries, hentries, hentriesValue⟩ := h.entries
  obtain ⟨es, rfl⟩ := Form.entries_sound hentries
  rw [Settings.Sketch.obstacle?_eq_none_iff]
  constructor
  · rintro f ⟨⟩
    rw [hauthValue]
    exact Json.obstacle?_mono (by decide) (Form.obstacle?_authentication hbody hauth)
  · rintro f ⟨⟩
    rw [hentriesValue]
    exact Form.obstacle?_storedEntries es (by decide)

/-- The values of a record that was sent can be handed to the tables. -/
theorem Form.draft_fits_of_sent {k : Kind} {form : Form k} (h : form.Sent) :
    form.draft.data.Fits := by
  cases k with
  | workspace =>
    obtain ⟨members, h, hbody⟩ := h
    exact ⟨(Form.workspace_sound h).settings.obstacle? hbody, rfl⟩
  | folder =>
    obtain ⟨members, h, hbody⟩ := h
    exact ⟨(Form.folder_sound h).settings.obstacle? hbody, rfl⟩
  | request p =>
    obtain ⟨members, h, hbody⟩ := h
    exact ⟨(Form.request_sound h).settings.obstacle? hbody, rfl⟩
  | exchange p => exact (Form.not_sent h).elim

end Api

/-! ### Every change keeps records proper -/

namespace Op

/-- The copy of a request that can be read can be read. -/
theorem copyAt_proper {p : Protocol} {r : Row (.request p)} (h : r.data.Proper)
    (place : Float) : Sketch.Proper (Op.copyAt r.draft place).data := by
  have hsettings : (copyAt r.draft place).data.settings =
      ((r.data.settings.sketch).over Given.laidOver Settings.blank).copy := by
    cases p <;> rfl
  show Settings.Sketch.Proper (copyAt r.draft place).data.settings
  rw [hsettings]
  exact h.copy

end Op

theorem Store.Proper.commit {s t : Store} (hs : s.Proper) (h : s.Commit t) : t.Proper := by
  cases h with
  | write hsent _ _ hwrite =>
    exact hs.write (Sketch.full_sketch (Api.Form.proper_of_sent hsent)).proper hwrite
  | copy hr _ hwrite => exact hs.write (Op.copyAt_proper (hs _ _ hr) _) hwrite
  | delete key => exact fun k row hrow => hs k row (mem_rows_delete.mp hrow).1

/-- Wherever calls get, every record can be read. -/
theorem Catalog.Served.proper {c : Catalog} (h : c.Served) : c.store.Proper :=
  h.store_induction Store.proper_empty fun _ _ _ hs => hs.commit

end RequestCatalog
