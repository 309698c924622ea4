import RequestCatalog.Api.Service
import RequestCatalog.Proofs.Operation

/-! # What a call leaves

  A call changes the store in one of three ways. It writes a record that was sent and
  admitted, it writes the copy of a stored request, or it deletes records. Everything
  else that calls do leaves the store as it was, and `Command.run_left` goes through
  the commands once to say so. `serve_left` carries this over to whole calls.
-/

namespace RequestCatalog

namespace Api

open Relation

/-! ### Checks that accept -/

namespace Checked

variable {α β : Type}

theorem map_eq_sound_iff {f : α → β} {a : Checked α} {b : β} :
    f <$> a = .sound b ↔ ∃ x, a = .sound x ∧ f x = b := by
  cases a <;> simp [Functor.map, both]

theorem seq_eq_sound_iff {f : Checked (α → β)} {a : Checked α} {b : β} :
    f <*> a = .sound b ↔ ∃ g x, f = .sound g ∧ a = .sound x ∧ g x = b := by
  cases f <;> cases a <;> simp [Seq.seq, both]

theorem within_eq_sound_iff {part : String} {a : Checked α} {b : α} :
    a.within part = .sound b ↔ a = .sound b := by
  cases a <;> simp [within]

end Checked

/-! ### Records that were sent and admitted -/

/-- The check of a body that sends a record of a kind. What came back from a request is never
    sent. -/
def Form.check : (k : Kind) → List (Text × Json) → Checked (Form k)
  | .workspace => workspace
  | .folder => folder
  | .request p => request p
  | .exchange _ => fun _ => .refuse .missing

/-- The record passed the check, in a body that the reader takes. -/
def Form.Sent {k : Kind} (form : Form k) : Prop :=
  ∃ members, Form.check k members = .sound form ∧
    (Json.object members).obstacle? Payload.greatestNesting = none

theorem Form.not_sent {p : Protocol} {form : Form (.exchange p)} : ¬ form.Sent := by
  rintro ⟨members, hcheck, -⟩
  cases hcheck

/-- A text is read off a field. Of a garbled one nothing is taken. -/
def Form.TextSent (field : Checked Text) (s : String) : Prop :=
  ∃ t, field = .sound t ∧ s = t.plain

/-- A text or nothing is read off a field. -/
def Form.TextOrNullSent (field : Checked (Option Text)) (s : Option String) : Prop :=
  ∃ t, field = .sound t ∧ s = t.map Text.plain

/-- The settings of a record passed the check, field by field. -/
structure Form.SettingsSent (members : List (Text × Json)) (name : String) (s : Settings) :
    Prop where
  type : Form.TextOrNullSent (Form.authenticationType members) s.authenticationType
  authentication : ∃ j, Form.authentication members = .sound j ∧ s.authentication = .written j
  entries : ∃ j, Form.entries members name = .sound j ∧ s.entries = .written j

/-- A workspace passed the check, field by field. -/
structure Form.WorkspaceSent (members : List (Text × Json)) (form : Form .workspace) :
    Prop where
  name : Form.TextSent (required members "name" text) form.data.name
  settings : Form.SettingsSent members "headers" form.data.settings
  id : Form.TextSent (Form.identifier members) form.id
  garbled : form.garbled = Form.garbledFields .workspace members

/-- A folder passed the check, field by field. -/
structure Form.FolderSent (members : List (Text × Json)) (form : Form .folder) : Prop where
  workspaceId : Form.TextSent (required members "workspace_id" text) form.data.workspaceId
  folderId : Form.TextOrNullSent (optional members "folder_id" none textOrNull) form.data.folderId
  name : Form.TextSent (required members "name" text) form.data.name
  sortPriority : optional members "sort_priority" 0.0 priority = .sound form.data.sortPriority
  settings : Form.SettingsSent members "headers" form.data.settings
  id : Form.TextSent (Form.identifier members) form.id
  garbled : form.garbled = Form.garbledFields .folder members

/-- A request passed the check, field by field. -/
structure Form.RequestSent {p : Protocol} (members : List (Text × Json))
    (form : Form (.request p)) : Prop where
  workspaceId : Form.TextSent (required members "workspace_id" text) form.data.workspaceId
  folderId : Form.TextOrNullSent (optional members "folder_id" none textOrNull) form.data.folderId
  name : Form.TextSent (optional members "name" (.sound "") text) form.data.name
  sortPriority : optional members "sort_priority" 0.0 priority = .sound form.data.sortPriority
  call : Form.call p members = .sound form.data.call
  settings : Form.SettingsSent members (Form.entriesName p members) form.data.settings
  id : Form.TextSent (Form.identifier members) form.id
  garbled : form.garbled = Form.garbledFields (.request p) members

section sent

open Checked

variable {members : List (Text × Json)}

theorem Form.workspace_sound {form : Form .workspace}
    (h : Form.workspace members = .sound form) : form.WorkspaceSent members := by
  simp only [Form.workspace, seq_eq_sound_iff, map_eq_sound_iff] at h
  obtain ⟨_, id, ⟨_, entries, ⟨_, auth, ⟨_, type, ⟨name, hname, rfl⟩, htype, rfl⟩, hauth, rfl⟩,
    hentries, rfl⟩, hid, rfl⟩ := h
  exact ⟨⟨name, hname, rfl⟩,
    ⟨⟨type, htype, rfl⟩, ⟨auth, hauth, rfl⟩, ⟨entries, hentries, rfl⟩⟩, ⟨id, hid, rfl⟩, rfl⟩

theorem Form.folder_sound {form : Form .folder} (h : Form.folder members = .sound form) :
    form.FolderSent members := by
  simp only [Form.folder, seq_eq_sound_iff, map_eq_sound_iff] at h
  obtain ⟨_, id, ⟨_, entries, ⟨_, auth, ⟨_, type, ⟨_, priority, ⟨_, name, ⟨_, folderId,
    ⟨workspaceId, hworkspace, rfl⟩, hfolder, rfl⟩, hname, rfl⟩, hpriority, rfl⟩, htype, rfl⟩,
    hauth, rfl⟩, hentries, rfl⟩, hid, rfl⟩ := h
  exact ⟨⟨workspaceId, hworkspace, rfl⟩, ⟨folderId, hfolder, rfl⟩, ⟨name, hname, rfl⟩, hpriority,
    ⟨⟨type, htype, rfl⟩, ⟨auth, hauth, rfl⟩, ⟨entries, hentries, rfl⟩⟩, ⟨id, hid, rfl⟩, rfl⟩

theorem Form.request_sound {p : Protocol} {form : Form (.request p)}
    (h : Form.request p members = .sound form) : form.RequestSent members := by
  simp only [Form.request, seq_eq_sound_iff, map_eq_sound_iff] at h
  obtain ⟨_, id, ⟨_, entries, ⟨_, call, ⟨_, auth, ⟨_, type, ⟨_, priority, ⟨_, name, ⟨_, folderId,
    ⟨workspaceId, hworkspace, rfl⟩, hfolder, rfl⟩, hname, rfl⟩, hpriority, rfl⟩, htype, rfl⟩,
    hauth, rfl⟩, hcall, rfl⟩, hentries, rfl⟩, hid, rfl⟩ := h
  exact ⟨⟨workspaceId, hworkspace, rfl⟩, ⟨folderId, hfolder, rfl⟩, ⟨name, hname, rfl⟩, hpriority,
    hcall, ⟨⟨type, htype, rfl⟩, ⟨auth, hauth, rfl⟩, ⟨entries, hentries, rfl⟩⟩, ⟨id, hid, rfl⟩,
    rfl⟩

end sent

/-- The record may be written into this store. -/
def Form.Admitted (s : Store) : {k : Kind} → Form k → Prop
  | .folder, form => admitFolder form s = .ok ()
  | .request _, form => admitRequest form s = .ok ()
  | .workspace, _ => True
  | .exchange _, _ => True

/-- The record that a command writes. -/
def Command.form? : Command → Option ((k : Kind) × Form k)
  | .writeWorkspace form _ => some ⟨.workspace, form⟩
  | .writeFolder form _ => some ⟨.folder, form⟩
  | .writeRequest p form _ => some ⟨.request p, form⟩
  | _ => none

/-- The record that a command writes passed the check of bodies. -/
def Command.Sound (command : Command) : Prop :=
  ∀ k form, command.form? = some ⟨k, form⟩ → form.Sent

/-! ### Writing a record that was sent -/

section write

variable {k : Kind} (form : Form k) (source : String) (c : Catalog)

theorem Form.demand_of_clean {field : String} (h : form.garbled.lookup field = none) :
    form.demand field = .ok () := by
  rw [Form.demand, Op.demand, h]

/-- A record without garbled texts is written as its draft is. -/
theorem Form.run_write_of_sound (hgarbled : form.garbled = []) :
    form.write source c = Op.upsert form.draft source c := by
  rw [Form.write, Op.upsert, hgarbled]

/-- A record whose identifier is garbled is not looked up. -/
theorem Form.run_write_of_garbled_id {t : Text} (h : form.garbled.lookup "id" = some t) :
    form.write source c = .error (.unfit (.garbled t)) c :=
  Op.run_save_of_error _ c (Op.run_prepare_of_garbled_id _ c h) source

/-- A record with a garbled text fails before it is written. -/
theorem Form.run_write_of_garbled (hgarbled : form.garbled ≠ []) :
    ∃ fault c', form.write source c = .error fault c' ∧ c'.store = c.store := by
  cases hid : form.garbled.lookup "id" with
  | some t => exact ⟨_, c, form.run_write_of_garbled_id source c hid, rfl⟩
  | none =>
    obtain ⟨fault, hrefusal⟩ := Sketch.exists_refusal form.draft.data hgarbled
    exact ⟨fault, _,
      Op.run_save_of_error _ c (Op.run_prepare_of_refusal form.draft c hid hrefusal) source, rfl⟩

/-- What writing a record leaves: the store as it was, or with the record written into it. -/
theorem Form.write_left :
    ((form.write source).left c).store = c.store ∨
      form.garbled = [] ∧ form.draft.data.Fits ∧
        ((form.write source).left c).issued = c.issuedFor form.draft ∧
        ∃ row, c.store.write (c.idFor form.draft) form.draft.data c.now =
          .ok (row, ((form.write source).left c).store) := by
  by_cases hgarbled : form.garbled = []
  · have hsame : (form.write source).left c = (Op.upsert form.draft source).left c := by
      unfold Op.left
      rw [form.run_write_of_sound source c hgarbled]
    rw [hsame]
    obtain ⟨hissued, hstore⟩ := Op.upsert_left form.draft c source
    exact hstore.imp_right fun ⟨hfits, hwrite⟩ => ⟨hgarbled, hfits, hissued, hwrite⟩
  · obtain ⟨fault, c', hrun, hstore⟩ := form.run_write_of_garbled source c hgarbled
    rw [Op.left_of_error hrun]
    exact .inl hstore

end write

/-! ### What a command leaves -/

/-- One store comes from another by a deletion that the tables do not refuse. -/
def Deletes (s t : Store) : Prop := ∃ key, s.erase key = .ok t

/-- What a deletion takes is what depends on the record. -/
theorem Deletes.exists_eq_delete {s t : Store} (h : Deletes s t) : ∃ key, t = s.delete key :=
  h.imp fun _ => Store.eq_delete_of_erase

theorem deleteStored_moves {k : Kind} (row : Row k) (source : String) :
    (deleteStored row source).Moves Deletes := by
  have hdelete : ∀ s t key, s.erase key = .ok t → Deletes s t := fun s t key h => ⟨key, h⟩
  cases k with
  | request p => exact Op.moves_deleteRequest hdelete row source
  | workspace => exact Op.moves_delete hdelete row source
  | folder => exact Op.moves_delete hdelete row source
  | exchange p => exact Op.moves_delete hdelete row source

/-- The three ways in which a command may change the store, each with the identifiers that
    were made for it. -/
inductive Command.Effect (command : Command) (c c' : Catalog) : Prop where
  /-- Nothing but deletions, perhaps none. -/
  | deletes (h : ReflTransGen Deletes c.store c'.store)
  /-- The record that the command brings is written. -/
  | writes {k : Kind} {form : Form k} {row : Row k} (hform : command.form? = some ⟨k, form⟩)
      (hadmitted : form.Admitted c.store) (hissued : c'.issued = c.issuedFor form.draft)
      (hwrite : c.store.write (c.idFor form.draft) form.draft.data c.now = .ok (row, c'.store))
      (hgarbled : form.garbled = []) (hfits : form.draft.data.Fits)
  /-- A copy of a stored request is written, at its place behind the request. -/
  | copies {p : Protocol} {r row : Row (.request p)} {id : String} {source : Source}
      {place : Float} (hcommand : command = .duplicate p id source)
      (hget : c.store.get? (.request p) id = some r)
      (hplace : place =
        (Priority.after (Op.placed r) ((Op.siblings c.store r.draft).map Op.placed)).1)
      (hissued : c'.issued = c.issued ++ [⟨.request p, c.nextId (.request p)⟩])
      (hwrite : c.store.write (c.nextId (.request p)) (Op.copyAt r.draft place).data c.now =
        .ok (row, c'.store))
      (hwritable : r.draft.data.obstacle? = none)

namespace Command

variable {command : Command} {c : Catalog}

theorem Effect.of_moves {op : Op Reply} (h : op.Moves Deletes) :
    command.Effect c (op.left c) :=
  .deletes (h c)

theorem Effect.of_write {k : Kind} {form : Form k} (hform : command.form? = some ⟨k, form⟩)
    (hadmitted : form.Admitted c.store) (source : String) :
    command.Effect c ((form.write source).left c) := by
  rcases form.write_left source c with hsame | ⟨hgarbled, hfits, hissued, row, hwrite⟩
  · exact .deletes (by rw [hsame])
  · exact .writes hform hadmitted hissued hwrite hgarbled hfits

/-- A record that has to be admitted is written or not, by what is decided first. -/
theorem Effect.of_admission {k : Kind} {form : Form k} (hform : command.form? = some ⟨k, form⟩)
    {check : Store → Except Fault Unit}
    (hadmits : check c.store = .ok () → form.Admitted c.store) (source : String)
    (reply : Row k → Reply) :
    command.Effect c ((Op.consult check >>= fun _ => form.write source >>= fun row =>
      (pure (reply row) : Op Reply)).left c) := by
  rw [Op.left_consult_bind]
  cases hcheck : check c.store with
  | error e => exact .deletes .refl
  | ok =>
    show Effect _ _ ((form.write source >>= _).left c)
    rw [Op.left_map]
    exact .of_write hform (hadmits hcheck) source

theorem Effect.of_duplicate {p : Protocol} {id : String} {source : Source}
    {r : Row (.request p)} (hcommand : command = .duplicate p id source)
    (hget : c.store.get? (.request p) id = some r) :
    command.Effect c ((Op.duplicate r.draft source.name).left c) := by
  rcases Op.duplicate_left r.draft c source.name with
    hsame | ⟨hissued, hwritable, priority, row, hpriority, hwrite⟩
  · exact .deletes (by rw [hsame])
  · cases hpriority
    exact .copies hcommand hget rfl hissued hwrite hwritable

end Command

/-- What a command leaves. -/
theorem Command.run_left (command : Command) (c : Catalog) :
    command.Effect c (command.run.left c) := by
  cases command with
  | about => exact .of_moves (Op.moves_pure _)
  | health => exact .of_moves (Op.moves_pure _)
  | listWorkspaces => exact .of_moves ((Op.moves_ask _).bind fun _ => Op.moves_pure _)
  | listFolders => exact .of_moves ((Op.moves_ask _).bind fun _ => Op.moves_pure _)
  | listRequests => exact .of_moves ((Op.moves_ask _).bind fun _ => Op.moves_pure _)
  | listContents => exact .of_moves ((Op.moves_consult _).bind fun _ => Op.moves_pure _)
  | get k id => exact .of_moves ((Op.moves_fetch k id).bind fun _ => Op.moves_pure _)
  | writeWorkspace form source =>
    show Effect _ _ ((form.write source.name >>= _).left c)
    have hadmitted : form.Admitted c.store := trivial
    rw [Op.left_map]
    exact .of_write rfl hadmitted _
  | writeFolder form source =>
    have hadmits : admitFolder form c.store = .ok () → form.Admitted c.store := id
    exact .of_admission rfl hadmits _ _
  | writeRequest p form source =>
    have hadmits : admitRequest form c.store = .ok () → form.Admitted c.store := id
    exact .of_admission rfl hadmits _ _
  | delete k id source =>
    refine .of_moves ((Op.moves_fetch k id).bind fun row => ?_)
    exact (deleteStored_moves row _).bind fun _ => Op.moves_pure _
  | duplicate p id source =>
    show Effect _ _ ((Op.consult (fun s => s.fetch (.request p) (some id)) >>= _).left c)
    rw [Op.left_consult_bind, Store.fetch_some]
    cases hget : c.store.get? (.request p) id with
    | none => exact .deletes .refl
    | some r =>
      show Effect _ _ ((Op.duplicate r.draft source.name >>= _).left c)
      rw [Op.left_map]
      exact .of_duplicate rfl hget
  | folderAuthentication id =>
    refine .of_moves ((Op.moves_fetch .folder id).bind fun _ => ?_)
    exact (Op.moves_askUpwards _).bind fun _ => Op.moves_pure _
  | folderEntries id =>
    refine .of_moves ((Op.moves_fetch .folder id).bind fun _ => ?_)
    exact (Op.moves_askUpwards _).bind fun _ => Op.moves_pure _
  | requestAuthentication p id =>
    refine .of_moves ((Op.moves_fetch (.request p) id).bind fun _ => ?_)
    exact (Op.moves_askUpwards _).bind fun _ => Op.moves_pure _
  | requestEntries p id =>
    refine .of_moves ((Op.moves_fetch (.request p) id).bind fun _ => ?_)
    exact (Op.moves_askUpwards _).bind fun _ => Op.moves_pure _

/-! ### Calls for a command -/

/-- The call is one for this command: its address and its method are known, and all that it
    carries is accepted. -/
def Incoming.Gives (call : Incoming) (command : Command) : Prop :=
  ∃ resource, Resource.ofPath? call.path = some resource ∧
    resource.command? call call.method = some (.sound command)

/-- A call is for one command at most. -/
theorem Incoming.Gives.unique {call : Incoming} {command other : Command}
    (h : call.Gives command) (h' : call.Gives other) : command = other := by
  obtain ⟨resource, hresource, hcommand⟩ := h
  obtain ⟨resource', hresource', hcommand'⟩ := h'
  obtain rfl := Option.some.inj (hresource.symm.trans hresource')
  cases hcommand.symm.trans hcommand'
  rfl

/-- No resource knows a method that asks for the head alone. -/
theorem Resource.command?_head (call : Incoming) (resource : Resource) :
    resource.command? call "HEAD" = none := by
  unfold Resource.command?
  split <;> first | rfl | (next h => exact absurd h (by decide))

/-- A call for a command is answered by carrying the command out. -/
theorem serve_of_gives {call : Incoming} {command : Command} (h : call.Gives command)
    (c : Catalog) : serve call c = carryOut call command c := by
  obtain ⟨resource, hresource, hcommand⟩ := h
  have hmethod : (call.method == "HEAD") = false := by
    rw [beq_eq_false_iff_ne]
    intro hhead
    rw [hhead, resource.command?_head] at hcommand
    cases hcommand
  unfold serve answer
  simp only [hresource, hcommand, hmethod]
  rw [Op.run_bind]
  cases carryOut call command c <;> rfl

/-! ### What a call leaves -/

/-- A body that is an object can be put in writing. -/
theorem Incoming.obstacle?_of_body {call : Incoming} {members : List (Text × Json)}
    (h : call.body = .sound (some (.object members))) :
    (Json.object members).obstacle? Payload.greatestNesting = none := by
  unfold Incoming.body at h
  split at h
  · obtain ⟨value, hvalue, hcounted⟩ := Checked.map_eq_sound_iff.mp h
    have hcarried : call.payload.value = .sound (some (.object members)) := by
      rw [hvalue]
      unfold Incoming.counted at hcounted
      split at hcounted
      · split at hcounted <;> cases hcounted
      · rw [hcounted]
    exact Payload.obstacle?_of_value hcarried
  · -- what is left unread is a text
    unfold Payload.unread at h
    split at h
    · cases h
    · cases h
    · split at h <;> cases h

/-- A record that comes out of a body passed the check. -/
theorem Incoming.form_sound {k : Kind} {call : Incoming}
    {check : List (Text × Json) → Checked (Form k)} {form : Form k} {source : Source}
    (h : call.form check = .sound (form, source)) :
    ∃ members, check members = .sound form ∧
      (Json.object members).obstacle? Payload.greatestNesting = none := by
  unfold Incoming.form at h
  cases hbody : call.body with
  | flawed complaints => simp [hbody] at h
  | sound body =>
    simp only [hbody, Checked.seq_eq_sound_iff, Checked.map_eq_sound_iff] at h
    obtain ⟨_, found, ⟨_, -, rfl⟩, hfound, heq⟩ := h
    obtain ⟨rfl, -⟩ := Prod.mk.inj heq
    match body with
    | none => cases hfound
    | some (.object members) =>
      exact ⟨members, Checked.within_eq_sound_iff.mp hfound, Incoming.obstacle?_of_body hbody⟩

/-- The record of every command that a call gives passed the check. -/
theorem Resource.command?_sound {call : Incoming} {resource : Resource} {method : String}
    {command : Command} (h : resource.command? call method = some (.sound command)) :
    command.Sound := by
  intro k form hform
  unfold Resource.command? at h
  split at h
  -- the commands that write what was sent
  case h_6 | h_7 | h_8 =>
    obtain ⟨⟨sent, source⟩, hcall, rfl⟩ := Checked.map_eq_sound_iff.mp (Option.some.inj h)
    cases hform
    exact Incoming.form_sound hcall
  -- the other commands that look at the call
  case h_4 | h_5 | h_10 | h_11 =>
    obtain ⟨_, -, rfl⟩ := Checked.map_eq_sound_iff.mp (Option.some.inj h)
    cases hform
  case h_17 => cases h
  all_goals
    cases Checked.sound.inj (Option.some.inj h)
    cases hform

theorem Incoming.Gives.sound {call : Incoming} {command : Command} (h : call.Gives command) :
    command.Sound := by
  obtain ⟨resource, -, hcommand⟩ := h
  exact Resource.command?_sound hcommand

/-- Turning a fault into a reply adds no more than a notice. -/
theorem carryOut_left (call : Incoming) (command : Command) (c : Catalog) :
    ((carryOut call command).left c).store = (command.run.left c).store ∧
      ((carryOut call command).left c).issued = (command.run.left c).issued := by
  unfold Op.left carryOut
  cases command.run c with
  | ok reply c' => exact ⟨rfl, rfl⟩
  | error fault c' => cases fault <;> exact ⟨rfl, rfl⟩

theorem carryOut_of_ok {call : Incoming} {command : Command} {c c' : Catalog} {reply : Reply}
    (h : command.run c = .ok reply c') : carryOut call command c = .ok reply c' := by
  unfold carryOut
  rw [h]

/-- A fault that is no refused write is turned into its reply and not reported. -/
theorem carryOut_of_fault {call : Incoming} {command : Command} {c c' : Catalog} {fault : Fault}
    (h : command.run c = .error fault c') (hfault : ∀ v, fault ≠ .violation v) :
    carryOut call command c = .ok (.ofFault fault) c' := by
  unfold carryOut
  rw [h]
  cases fault with
  | violation v => exact absurd rfl (hfault v)
  | _ => rfl

/-- A call for a command leaves the records as the command leaves them. -/
theorem serve_left_of_gives {call : Incoming} {command : Command} (h : call.Gives command)
    (c : Catalog) : ((serve call).left c).store = (command.run.left c).store := by
  rw [← (carryOut_left call command c).1]
  unfold Op.left
  rw [serve_of_gives h]

/-- A call leaves the records and the identifiers made so far as they were, or as the command
    that it gives leaves them. -/
theorem serve_left (call : Incoming) (c : Catalog) :
    ((serve call).left c).store = c.store ∨
      ∃ command : Command, call.Gives command ∧
        ((serve call).left c).store = (command.run.left c).store ∧
        ((serve call).left c).issued = (command.run.left c).issued := by
  have hserve : (serve call).left c = (answer call).left c := Op.left_map _ _ c
  rw [hserve]
  unfold answer
  cases hresource : Resource.ofPath? call.path with
  | none => exact .inl rfl
  | some resource =>
    simp only
    cases hcommand : resource.command? call call.method with
    | none => exact .inl rfl
    | some checked =>
      cases checked with
      | flawed complaints => exact .inl rfl
      | sound command =>
        exact .inr ⟨command, ⟨resource, hresource, hcommand⟩, carryOut_left call command c⟩

end Api

end RequestCatalog
