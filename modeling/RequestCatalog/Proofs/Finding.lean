import RequestCatalog.Proofs.Inheritance.Authentication
import RequestCatalog.Proofs.Inheritance.Entries
import RequestCatalog.Proofs.Levels
import RequestCatalog.Proofs.Listing
import RequestCatalog.Proofs.Refusals
import RequestCatalog.Proofs.Workspaces

/-! # What commands find

  A command finds something or writes something, and the reply shows it. `Command.find`
  is the command without the reply. Among served catalogues it comes to one of six things
  (`Command.Comes`):

  * it finds what is stored, or what can be read from what is stored;
  * it is refused for a reason that has a code of its own;
  * it is to write a record with a garbled text;
  * it is to copy a request in which too many values stand inside each other;
  * it is to copy a request that has no place behind it: the middle between its priority
    and the next one is no number;
  * it is to delete a record that is too deep.

  In particular nothing that was sent without a garbled text and was admitted fails to be written.
-/

namespace RequestCatalog

open Relation

/-! ### What was accepted is written -/

/-- A draft that gives every column is complete over any other, if its priority is a number. -/
theorem Sketch.exists_columns_over (rule : ColumnRule)
    (hrule : ∀ {α : Type} (a : α) (base : Given α), rule (.value a) base = .value a) {k : Kind}
    (columns : Columns k)
    (hnumber : ∀ x, Columns.priority? columns = some x → x.isNaN = false) (base : Sketch k) :
    ∃ completed, Sketch.columns? (Sketch.over rule (Columns.sketch columns) base) =
      .ok completed := by
  cases k with
  | workspace =>
    simp only [Columns.sketch, Sketch.over, Sketch.columns?, hrule]
    exact ⟨_, rfl⟩
  | folder =>
    obtain ⟨kept, hkept⟩ := Priority.exists_kept (hnumber _ rfl)
    simp only [Columns.sketch, Sketch.over, Sketch.columns?, hrule, hkept]
    exact ⟨_, rfl⟩
  | request p =>
    obtain ⟨kept, hkept⟩ := Priority.exists_kept (hnumber _ rfl)
    cases p with
    | http | grpc =>
      simp only [Columns.sketch, Call.sketch, Sketch.over, Call.Sketch.over, Sketch.columns?,
        Call.Sketch.columns?, hrule, hkept]
      exact ⟨_, rfl⟩
  | exchange p =>
    simp only [Columns.sketch, Sketch.over, Sketch.columns?, hrule]
    exact ⟨_, rfl⟩

/-- The priority of a record that was sent is a number. -/
theorem Api.Form.isNaN_priority {k : Kind} {form : Form k} (h : form.Sent) :
    ∀ x, Columns.priority? form.data = some x → x.isNaN = false := by
  intro x hx
  cases k with
  | workspace => cases hx
  | folder =>
    cases hx
    exact Priority.isNaN_of_isFinite (Form.fits_of_sent h)
  | request p =>
    obtain ⟨members, h, -⟩ := h
    cases hx
    exact Priority.isNaN_of_isFinite (priority_of_sound (Form.request_sound h).sortPriority)
  | exchange p => exact (Form.not_sent h).elim

namespace Store

variable {s : Store} {k : Kind} {form : Api.Form k}

/-- A record that was sent lacks no column. -/
theorem exists_candidate (hsent : form.Sent) (id : String) (now : Instant) :
    ∃ row, s.candidate id form.draft.data now = .ok row := by
  have hnumber := Api.Form.isNaN_priority hsent
  unfold candidate
  cases s.get? k id with
  | some old =>
    obtain ⟨completed, hcompleted⟩ := Sketch.exists_columns_over Given.laidOver
      Given.laidOver_value form.data hnumber (Columns.sketch old.data)
    simp only [Api.Form.draft, hcompleted]
    exact ⟨_, rfl⟩
  | none =>
    obtain ⟨completed, hcompleted⟩ := Sketch.exists_columns_over Given.filledFrom
      Given.filledFrom_value form.data hnumber (Columns.defaults k)
    simp only [Api.Form.draft, hcompleted]
    exact ⟨_, rfl⟩

/-- A record that was sent and admitted is written. -/
theorem exists_write (hsent : form.Sent) (hadmitted : form.Admitted s) (id : String)
    (now : Instant) : ∃ row t, s.write id form.draft.data now = .ok (row, t) := by
  obtain ⟨row, hcandidate⟩ := exists_candidate (s := s) hsent id now
  refine ⟨row, _, write_eq_ok_iff.mpr ⟨hcandidate, ?_, rfl⟩⟩
  -- a record refers to its place and to nothing else
  have hplaced : ∀ {workspaceId : String} {folderId : Option String},
      s.HasPlace workspaceId folderId →
      row.refs = ⟨.workspace, workspaceId⟩ :: folderId.toList.map (⟨.folder, ·⟩) →
      s.resolvesRefs row = true := by
    intro workspaceId folderId hplace hrefs
    refine List.all_eq_true.mpr fun ref href => ?_
    rw [hrefs] at href
    have hheld : s.holds ref = true := by
      rcases List.mem_cons.mp href with rfl | hfolder
      · exact hplace.1
      · obtain ⟨other, hother, rfl⟩ : ∃ other, folderId = some other ∧
            (⟨.folder, other⟩ : Key) = ref := by simpa using hfolder
        obtain ⟨f, hget, -⟩ := hplace.2 other hother
        exact holds_of_get? hget
    rw [hheld, Bool.or_true]
  cases k with
  | workspace => rfl
  | folder =>
    obtain ⟨hworkspace, hfolder⟩ := place_of_candidate_folder hcandidate rfl rfl
    apply hplaced (Api.hasPlace_of_admitFolder hadmitted)
    rw [← hworkspace, ← hfolder]
    rfl
  | request p =>
    obtain ⟨hworkspace, hfolder⟩ := place_of_candidate_request hcandidate rfl rfl
    apply hplaced (Api.hasPlace_of_admitRequest hadmitted)
    rw [← hworkspace, ← hfolder]
    rfl
  | exchange p => exact (Api.Form.not_sent hsent).elim

end Store

/-! ### Copies without a place -/

/-- An insertion or update that the tables refuse. -/
theorem Op.run_upsert_of_violation {k : Kind} (d : Draft k) (c : Catalog) (source : String)
    (hfits : d.data.Fits) {v : Violation}
    (hwrite : c.store.write (c.idFor d) d.data c.now = .error v) :
    upsert d source c = .error (.violation v) { c with issued := c.issuedFor d } := by
  rw [run_upsert d c hfits, hwrite]

/-- The entries can be read: all of them are complete. -/
def ReadableEntries (es : List Json) : Prop :=
  ∃ complete : List Api.HeaderEntry, .list es = Api.Form.storedEntries complete

theorem ReadableEntries.append {es more : List Json} (h : ReadableEntries es)
    (h' : ReadableEntries more) : ReadableEntries (es ++ more) := by
  obtain ⟨complete, hcomplete⟩ := h
  obtain ⟨others, hothers⟩ := h'
  refine ⟨complete ++ others, ?_⟩
  obtain rfl := Json.list.inj hcomplete
  obtain rfl := Json.list.inj hothers
  rw [Api.Form.storedEntries, List.map_append]

namespace Store

variable {s : Store}

end Store

/-! ### What holds wherever calls get -/

/-- What is known of the store wherever calls get. -/
structure Store.Kept (s : Store) : Prop where
  settled : s.Settled
  intact : s.Intact
  proper : s.Proper
  fits : s.Fits
  writable : s.Writable

theorem Catalog.Served.kept {c : Catalog} (hc : c.Served) : c.store.Kept :=
  ⟨hc.settled, hc.reached.intact, hc.proper, hc.fits, hc.reached.writable⟩

/-! ### Finding and replying -/

namespace Api

/-- What a command finds or writes. -/
inductive Found where
  /-- A page that does not depend on the catalogue. -/
  | page (j : Json)
  /-- Several records of a kind. -/
  | records {k : Kind} (rows : List (Row k))
  /-- A single record, and the status of the reply that shows it. -/
  | record {k : Kind} (status : Nat) (row : Row k)
  /-- Nothing: it is done. -/
  | nothing
  /-- The authentication that a record has in the end. -/
  | authentication (a : Authentication)
  /-- The entries that a record has in the end. -/
  | entries (es : List Json)

/-- The reply that shows what was found. -/
def Found.reply : Found → Reply
  | .page j => .json 200 j
  | .records rows => .showing 200 (shownRows? rows)
  | .record status row => .showing status (shownRow? row)
  | .nothing => .done
  | .authentication a => .showing 200 (shownOutcome? a)
  | .entries es => .showing 200 (shownEntries? (.list es))

/-- The command without its reply. -/
def Command.find : Command → Op Found
  | .about => return .page frontPage
  | .health => return .page (.object [("status", .text "healthy")])
  | .listWorkspaces => do return .records ((← Op.ask (·.workspaces)).mergeSort listedBefore)
  | .listFolders workspaceId => do
    return .records (Priority.sort Row.folderPriority (← Op.ask (·.foldersOf workspaceId)))
  | .listRequests p workspaceId => do
    let rows ← Op.ask (·.requestsOf p (some workspaceId))
    return .records (Priority.sort Row.requestPriority rows)
  | .listContents p folderId => do return .records (← Op.consult (·.requestsUnder p folderId))
  | .get k id => do return .record 200 (← Op.fetch k id)
  | .writeWorkspace form source => do return .record 200 (← form.write source.name)
  | .writeFolder form source => do
    Op.consult (admitFolder form)
    return .record 200 (← form.write source.name)
  | .writeRequest _ form source => do
    Op.consult (admitRequest form)
    return .record 200 (← form.write source.name)
  | .delete k id source => do
    let row ← Op.fetch k id
    let _ ← deleteStored row source.name
    return .nothing
  | .duplicate p id source => do
    let row ← Op.fetch (.request p) id
    return .record 201 (← Op.duplicate row.draft source.name)
  | .folderAuthentication id => do
    let folder ← Op.fetch .folder id
    return .authentication (← Op.askUpwards (·.folderAuthentication folder.node))
  | .folderEntries id => do
    let folder ← Op.fetch .folder id
    return .entries (← Op.askUpwards (·.folderEntries folder.node))
  | .requestAuthentication p id => do
    let request ← Op.fetch (.request p) id
    return .authentication (← Op.askUpwards (·.requestAuthentication request.node))
  | .requestEntries p id => do
    let request ← Op.fetch (.request p) id
    return .entries (← Op.askUpwards (·.requestEntries request.node))

/-- A command finds what it finds, and replies with it. -/
theorem Command.run_eq (command : Command) : command.run = Found.reply <$> command.find := by
  cases command with
  | _ =>
    simp only [run, find, map_bind, map_pure]
    rfl

/-- Whenever the question has no answer, callers are told a status and a code, or the question came
    to one of these garbled texts. -/
def Told {α : Type} (garbled : List (String × Text)) (x : Except Fault α) : Prop :=
  ∀ fault, x = .error fault →
    fault.statusAndCode?.isSome = true ∨ garbled ≠ [] ∧ ∃ t, fault = .unfit (.garbled t)

variable {α β : Type} {garbled : List (String × Text)}

theorem Told.bind {x : Except Fault α} {f : α → Except Fault β} (hx : Told garbled x)
    (hf : ∀ a, Told garbled (f a)) : Told garbled (x >>= f) := by
  intro fault h
  rcases bind_eq_error_iff.mp h with hfirst | ⟨a, -, hrest⟩
  · exact hx fault hfirst
  · exact hf a fault hrest

/-- Whether a record that was sent may be written, or why it may not. -/
def Form.permit : {k : Kind} → Form k → Store → Except Fault Unit
  | .folder, form, s => admitFolder form s
  | .request _, form, s => admitRequest form s
  | .workspace, _, _ | .exchange _, _, _ => .ok ()

/-- The command is to copy a stored request that is too deep for it. -/
def Command.CopiesTooDeep (command : Command) (s : Store) : Prop :=
  ∃ p id source r, command = .duplicate p id source ∧ s.get? (.request p) id = some r ∧
    Sketch.greatestCopied < r.draft.data.height

/-- The command is to delete a stored record that is too deep. -/
def Command.DeletesTooDeep (command : Command) (s : Store) : Prop :=
  ∃ (k : Kind) (id : String) (source : Source) (row : Row k),
    command = .delete k id source ∧ s.get? k id = some row ∧ s.TooDeep row.key

namespace Command

variable {command : Command} {c : Catalog}

section writes

variable {k : Kind} {form : Form k}

/-- A command that writes a record looks first whether it may. -/
theorem find_of_form (hform : command.form? = some ⟨k, form⟩) :
    ∃ source : Source, ∀ c, command.find c =
      (Op.consult form.permit >>= fun _ => form.write source.name >>= fun row =>
        pure (.record 200 row)) c := by
  cases command with
  | writeWorkspace sent source | writeFolder sent source | writeRequest p sent source =>
    cases hform
    exact ⟨source, fun _ => rfl⟩
  | _ => cases hform

end writes

/-! ### Deleting -/

/-- A stored record is deleted unless it is too deep, and then it stays with all the rest. -/
theorem deleteStored_cases (hs : c.store.Distinct) {k : Kind} {row : Row k}
    (hrow : row ∈ c.store.rows k) (source : Source) :
    c.store.TooDeep row.key ∧
        deleteStored row source.name c = .error (.violation .tooManyLevels) c ∨
      ¬ c.store.TooDeep row.key ∧ ∃ deleted c', deleteStored row source.name c =
          .ok deleted c' := by
  have hheld := Store.holds_of_mem hrow
  have hdelete : c.store.TooDeep row.key ∧
        Op.delete row source.name c = .error (.violation .tooManyLevels) c ∨
      ¬ c.store.TooDeep row.key ∧ ∃ deleted c', Op.delete row source.name c = .ok deleted c' := by
    by_cases hdeep : c.store.TooDeep row.key
    · exact .inl ⟨hdeep, Op.run_delete_of_error row source.name c
        ((Store.erase_eq_error_iff hs hheld).mpr hdeep)⟩
    · exact .inr ⟨hdeep, _, _, Op.run_delete_known row c
        (Store.erase_of_not_tooDeep hs hheld hdeep)⟩
  cases k with
  | workspace | folder | exchange => exact hdelete
  | request p =>
    refine .inr ⟨id, ?_⟩
    exact (Op.succeeds_deleteExchanges p row.id source).bind
      (fun _ => Op.succeeds_delete (.inr rfl) row source) c

/-- A stored record is fetched, and then deleted. -/
theorem find_delete {k : Kind} {id : String} (source : Source) {row : Row k}
    (hget : c.store.get? k id = some row) :
    (Command.delete k id source).find c =
      (deleteStored row source.name >>= fun _ => pure .nothing) c := by
  show (Op.fetch k id >>= fun row => deleteStored row source.name >>= _) c = _
  rw [Op.run_bind_of_ok (Op.run_fetch hget)]

theorem DeletesTooDeep.find_eq (hs : c.store.Distinct) (h : command.DeletesTooDeep c.store) :
    command.find c = .error (.violation .tooManyLevels) c := by
  obtain ⟨k, id, source, row, rfl, hget, hdeep⟩ := h
  rcases deleteStored_cases hs (Store.mem_of_get? hget) source with ⟨-, hrun⟩ | ⟨hshallow, -⟩
  · rw [find_delete source hget, Op.run_bind, hrun]
  · exact absurd hdeep hshallow

/-- A stored request is fetched, and then copied. -/
theorem find_duplicate {p : Protocol} {id : String} (source : Source) {r : Row (.request p)}
    (hget : c.store.get? (.request p) id = some r) :
    (Command.duplicate p id source).find c =
      (Op.duplicate r.draft source.name >>= fun copy => pure (.record 201 copy)) c := by
  show (Op.fetch (.request p) id >>= fun row => Op.duplicate row.draft source.name >>= _) c = _
  rw [Op.run_bind_of_ok (Op.run_fetch hget)]

theorem CopiesTooDeep.find_eq (h : command.CopiesTooDeep c.store) :
    command.find c = .error .tooDeep c := by
  obtain ⟨p, id, source, r, rfl, hget, hdeep⟩ := h
  have hheight : ¬ r.draft.data.height ≤ Sketch.greatestCopied := by omega
  rw [find_duplicate source hget, Op.run_bind, Op.duplicate, Op.run_bind, Op.run_copy,
    if_neg hheight]

end Command

end Api

end RequestCatalog
