import RequestCatalog.Proofs.Reached

/-! # Calls that change nothing

  A route looks records up, decides, and writes, in this order. So a command that fails has
  not written yet. Deletions are the one place where a command writes more than once. One that
  the tables refuse takes nothing, and where a command makes several they are of requests and
  of what came back from them, which the tables never refuse.

  * `Op.Clean`: an operation that fails leaves the store as it was. It passes through
    sequences in two ways: what comes before moves nothing, or what comes after never fails.
  * `Op.Yields`: what an operation returns has a property.
  * `serve_cases`: a call is answered in any case, and its reply is that of a command that
    succeeded, that of a fault, or one that no command was needed for.
-/

namespace RequestCatalog

open Relation

namespace Op

variable {α β : Type}

/-! ### Operations that fail before they write -/

/-- Whenever the operation fails, it leaves the store as it was. -/
def Clean (op : Op α) : Prop :=
  ∀ c fault c', op c = .error fault c' → c'.store = c.store

/-- The operation never fails. -/
def Succeeds (op : Op α) : Prop :=
  ∀ c, ∃ a c', op c = .ok a c'

/-- Whatever the operation returns has the property. -/
def Yields (P : α → Prop) (op : Op α) : Prop :=
  ∀ c a c', op c = .ok a c' → P a

theorem Succeeds.clean {op : Op α} (h : op.Succeeds) : op.Clean := by
  intro c fault c' herror
  obtain ⟨a, c'', hok⟩ := h c
  rw [hok] at herror
  cases herror

theorem Quiet.clean {op : Op α} (h : op.Quiet) : op.Clean := by
  intro c fault c' herror
  have hsame := h.store_eq c
  rwa [left_of_error herror] at hsame

/-- What fails after nothing was moved fails cleanly. -/
theorem Clean.after {op : Op α} {f : α → Op β} (hop : op.Quiet) (hf : ∀ a, (f a).Clean) :
    (op >>= f).Clean := by
  intro c fault c' herror
  have hsame := hop.store_eq c
  rw [run_bind] at herror
  cases hrun : op c with
  | ok a c'' =>
    rw [hrun] at herror
    rw [left_of_ok hrun] at hsame
    have hrest : c'.store = c''.store := hf a c'' fault c' herror
    exact hrest.trans hsame
  | error e c'' =>
    rw [hrun] at herror
    rw [left_of_error hrun] at hsame
    cases herror
    exact hsame

/-- What is followed only by operations that never fail fails as it does alone. -/
theorem Clean.before {op : Op α} {f : α → Op β} (hop : op.Clean) (hf : ∀ a, (f a).Succeeds) :
    (op >>= f).Clean := by
  intro c fault c' herror
  rw [run_bind] at herror
  cases hrun : op c with
  | ok a c'' =>
    rw [hrun] at herror
    obtain ⟨b, last, hok⟩ := hf a c''
    simp only [hok] at herror
    cases herror
  | error e c'' =>
    rw [hrun] at herror
    cases herror
    exact hop c _ _ hrun

theorem Succeeds.bind {op : Op α} {f : α → Op β} (hop : op.Succeeds)
    (hf : ∀ a, (f a).Succeeds) : (op >>= f).Succeeds := by
  intro c
  obtain ⟨a, c', hfirst⟩ := hop c
  obtain ⟨b, c'', hsecond⟩ := hf a c'
  exact ⟨b, c'', (run_bind_of_ok hfirst f).trans hsecond⟩

theorem succeeds_pure (a : α) : (pure a : Op α).Succeeds :=
  fun c => ⟨a, c, rfl⟩

theorem succeeds_note (notice : Notice) : (note notice).Succeeds :=
  fun _ => ⟨(), _, rfl⟩

theorem succeeds_ask (question : Store → α) : (ask question).Succeeds :=
  fun c => ⟨question c.store, c, rfl⟩

theorem quiet_forM_note (notices : List Notice) : (notices.forM note).Quiet := by
  apply moves_of_store_eq
  intro c
  rw [left_of_ok (run_forM_note notices c)]

/-! ### Writing and deleting from a known origin -/

/-- A write that fails was refused, so it was not made. -/
theorem clean_upsert {k : Kind} (d : Draft k) (source : Source) :
    (upsert d source.name).Clean := by
  intro c fault c' herror
  rcases prepare_cases d c with hfits | ⟨fault', hprepare⟩
  · rw [run_upsert d c hfits] at herror
    cases hwrite : c.store.write (c.idFor d) d.data c.now with
    | error v =>
      simp only [hwrite] at herror
      cases herror
      rfl
    | ok written =>
      simp only [hwrite, Source.ofName?_name] at herror
      cases herror
  · cases herror.symm.trans (run_save_of_error d c hprepare source.name)
    rfl

/-- A deletion that fails was refused, so nothing went. -/
theorem clean_delete {k : Kind} (row : Row k) (source : Source) :
    (delete row source.name).Clean := by
  intro c fault c' herror
  cases herase : c.store.erase row.key with
  | ok t =>
    rw [run_delete_known row c herase] at herror
    cases herror
  | error v =>
    rw [run_delete_of_error row source.name c herase] at herror
    cases herror
    rfl

/-- The deletion of a request, or of what came back from one, never fails. -/
theorem succeeds_delete {p : Protocol} {k : Kind} (hk : k = .exchange p ∨ k = .request p)
    (row : Row k) (source : Source) : (delete row source.name).Succeeds := fun c =>
  ⟨row, _, run_delete_known row c (Store.erase_of_request hk)⟩

theorem succeeds_deleteAll {p : Protocol} (source : Source) (rows : List (Row (.exchange p))) :
    (deleteAll source.name rows).Succeeds := by
  induction rows with
  | nil => exact succeeds_pure []
  | cons row rest ih =>
    have hrest : ∀ deleted : Row (.exchange p), (deleteAll source.name rest >>= fun others =>
        (pure (deleted :: others) : Op (List (Row (.exchange p))))).Succeeds :=
      fun _ => ih.bind fun _ => succeeds_pure _
    exact (succeeds_delete (.inl rfl) row source).bind hrest

theorem succeeds_deleteExchanges (p : Protocol) (requestId : String) (source : Source) :
    (deleteExchanges p requestId source.name).Succeeds :=
  (succeeds_ask _).bind fun rows => succeeds_deleteAll source rows

/-- A copy fails before it is written, or because the write is refused. -/
theorem clean_duplicate {p : Protocol} (d : Draft (.request p)) (source : Source) :
    (duplicate d source.name).Clean := by
  unfold duplicate
  refine .after (moves_copy d) fun copied => .after (moves_ask _) fun others => ?_
  cases d.data.sortPriority with
  | value priority =>
    -- the write is the last thing that can fail: after it the copy is only reported
    refine .after (quiet_forM_note _) fun _ => ?_
    exact (clean_upsert _ source).before fun stored =>
      (succeeds_note _).bind fun _ => succeeds_pure stored
  | absent | null =>
    dsimp only
    split
    · exact .after (moves_note _) fun _ => Quiet.clean (moves_throw _)
    · exact .after (moves_pure _) fun _ => Quiet.clean (moves_throw _)

/-! ### What an operation returns -/

theorem yields_pure {P : α → Prop} {a : α} (h : P a) : (pure a : Op α).Yields P := by
  intro c b c' hrun
  cases hrun
  exact h

theorem Yields.bind {P : β → Prop} {op : Op α} {f : α → Op β} (hf : ∀ a, (f a).Yields P) :
    (op >>= f).Yields P := by
  intro c b c' hrun
  rw [run_bind] at hrun
  cases hfirst : op c with
  | ok a c'' =>
    rw [hfirst] at hrun
    exact hf a c'' b c' hrun
  | error e c'' =>
    rw [hfirst] at hrun
    cases hrun

end Op

namespace Api

/-! ### Commands -/

/-- A record with a garbled text fails before it is written, and any other one is written as its
    draft is. -/
theorem Form.clean_write {k : Kind} (form : Form k) (source : Source) :
    (form.write source.name).Clean := by
  intro c fault c' herror
  by_cases hgarbled : form.garbled = []
  · rw [form.run_write_of_sound source.name c hgarbled] at herror
    exact Op.clean_upsert form.draft source c fault c' herror
  · obtain ⟨_, _, hrun, hstore⟩ := form.run_write_of_garbled source.name c hgarbled
    rw [hrun] at herror
    cases herror
    exact hstore

/-- Deleting a stored record fails only where the tables refuse, and then nothing goes. -/
theorem clean_deleteStored {k : Kind} (row : Row k) (source : Source) :
    (deleteStored row source.name).Clean := by
  cases k with
  | request p =>
    refine Op.Succeeds.clean ?_
    exact (Op.succeeds_deleteExchanges p row.id source).bind fun _ =>
      Op.succeeds_delete (.inr rfl) row source
  | workspace => exact Op.clean_delete row source
  | folder => exact Op.clean_delete row source
  | exchange p => exact Op.clean_delete row source

namespace Command

/-- The command asks for something and writes nothing. -/
def asks : Command → Bool
  | .writeWorkspace .. | .writeFolder .. | .writeRequest .. | .delete .. | .duplicate .. => false
  | _ => true

/-- A command that asks leaves the store as it was. -/
theorem quiet_of_asks {command : Command} (h : command.asks = true) : command.run.Quiet := by
  cases command with
  | about | health => exact Op.moves_pure _
  | listWorkspaces | listFolders | listRequests =>
    exact (Op.moves_ask _).bind fun _ => Op.moves_pure _
  | listContents => exact (Op.moves_consult _).bind fun _ => Op.moves_pure _
  | get k id => exact (Op.moves_fetch k id).bind fun _ => Op.moves_pure _
  | folderAuthentication id | folderEntries id =>
    refine (Op.moves_fetch .folder id).bind fun _ => ?_
    exact (Op.moves_askUpwards _).bind fun _ => Op.moves_pure _
  | requestAuthentication p id | requestEntries p id =>
    refine (Op.moves_fetch (.request p) id).bind fun _ => ?_
    exact (Op.moves_askUpwards _).bind fun _ => Op.moves_pure _
  | writeWorkspace | writeFolder | writeRequest | delete | duplicate => cases h

/-- A command that fails has not written anything. -/
theorem clean_run (command : Command) : command.run.Clean := by
  cases hasks : command.asks with
  | true => exact Op.Quiet.clean (quiet_of_asks hasks)
  | false =>
    cases command with
    | writeWorkspace form source =>
      exact (form.clean_write source).before fun _ => Op.succeeds_pure _
    | writeFolder form source =>
      refine .after (Op.moves_consult _) fun _ => ?_
      exact (form.clean_write source).before fun _ => Op.succeeds_pure _
    | writeRequest p form source =>
      refine .after (Op.moves_consult _) fun _ => ?_
      exact (form.clean_write source).before fun _ => Op.succeeds_pure _
    | delete k id source =>
      refine .after (Op.moves_fetch k id) fun row => ?_
      exact (clean_deleteStored row source).before fun _ => Op.succeeds_pure _
    | duplicate p id source =>
      refine .after (Op.moves_fetch (.request p) id) fun row => ?_
      exact (Op.clean_duplicate row.draft source).before fun _ => Op.succeeds_pure _
    | _ => cases hasks

/-- The reply says that all went well, or that what there is cannot be shown. -/
def Concludes (reply : Reply) : Prop :=
  reply.status < 300 ∨ reply = .failed

theorem concludes_showing {status : Nat} (hstatus : status < 300) (shown : Option Json) :
    Concludes (.showing status shown) := by
  cases shown with
  | none => exact .inr rfl
  | some j => exact .inl hstatus

/-- A command that succeeds concludes. -/
theorem yields_run (command : Command) : command.run.Yields Concludes := by
  have hshown : ∀ shown, Concludes (.showing 200 shown) := concludes_showing (by decide)
  have hfixed : ∀ j, Concludes (.json 200 j) := fun j => .inl (show 200 < 300 by decide)
  cases command with
  | about | health => exact Op.yields_pure (hfixed _)
  | listWorkspaces | listFolders | listRequests | listContents | get | writeWorkspace =>
    exact Op.Yields.bind fun _ => Op.yields_pure (hshown _)
  | writeFolder | writeRequest | folderAuthentication | folderEntries | requestAuthentication
  | requestEntries =>
    exact Op.Yields.bind fun _ => Op.Yields.bind fun _ => Op.yields_pure (hshown _)
  | delete =>
    have hdone : Concludes .done := .inl (show 204 < 300 by decide)
    exact Op.Yields.bind fun _ => Op.Yields.bind fun _ => Op.yields_pure hdone
  | duplicate =>
    have hcopied : ∀ shown, Concludes (.showing 201 shown) := concludes_showing (by decide)
    exact Op.Yields.bind fun _ => Op.Yields.bind fun _ => Op.yields_pure (hcopied _)

end Command

/-- Only questions are asked with the method `GET`. -/
theorem Resource.asks_of_get {call : Incoming} {resource : Resource} {command : Command}
    (h : resource.command? call "GET" = some (.sound command)) : command.asks = true := by
  cases resource with
  | collection k =>
    cases k with
    | workspace =>
      cases Checked.sound.inj (Option.some.inj h)
      rfl
    | folder | request =>
      obtain ⟨_, -, rfl⟩ := Checked.map_eq_sound_iff.mp (Option.some.inj h)
      rfl
    | exchange => cases h
  | authentication k id | entries k id =>
    cases k with
    | folder | request =>
      cases Checked.sound.inj (Option.some.inj h)
      rfl
    | workspace | exchange => cases h
  | copies => cases h
  | about | health | record | contents =>
    cases Checked.sound.inj (Option.some.inj h)
    rfl

/-! ### Replies -/

/-- The code with which a reply explains itself. -/
def Reply.errorCode? (r : Reply) : Option String :=
  match r.content with
  | .json (.object members) =>
    match members.lookup (.sound "error_code") with
    | some (.text (.sound code)) => some code
    | _ => none
  | _ => none

/-- A command that is carried out is answered in any case: with its reply, or with the reply to
    its fault and the store as it was. -/
theorem carryOut_cases (call : Incoming) (command : Command) (c : Catalog) :
    ∃ reply c', carryOut call command c = .ok reply c' ∧
      (command.run c = .ok reply c' ∨
        ∃ fault c'', command.run c = .error fault c'' ∧ reply = .ofFault fault ∧
          c'.store = c''.store ∧ c'.store = c.store) := by
  unfold carryOut
  cases hrun : command.run c with
  | ok reply c' => exact ⟨reply, c', rfl, .inl rfl⟩
  | error fault c'' =>
    have hsame : c''.store = c.store := command.clean_run c fault c'' hrun
    cases fault with
    -- the report of a refused write is all that is added
    | violation v => exact ⟨_, _, rfl, .inr ⟨_, c'', rfl, rfl, rfl, hsame⟩⟩
    | _ => exact ⟨_, _, rfl, .inr ⟨_, c'', rfl, rfl, rfl, hsame⟩⟩

/-- A call is answered in any case. Either no command was carried out, with nothing changed and
    a reply that blames the call, or the reply is that of a command. -/
theorem serve_cases (call : Incoming) (c : Catalog) :
    ∃ reply c', serve call c = .ok reply c' ∧
      ((300 ≤ reply.status ∧ reply.status < 500 ∧ c' = c ∧ ∀ command, ¬ call.Gives command) ∨
        ∃ command, call.Gives command ∧ carryOut call command c = .ok reply c') := by
  cases hresource : Resource.ofPath? call.path with
  | none =>
    have hnone : ∀ command, ¬ call.Gives command := by
      rintro command ⟨resource, hfound, -⟩
      rw [hresource] at hfound
      cases hfound
    unfold serve answer
    simp only [hresource]
    cases isSlashedResource call.path <;> cases call.method == "HEAD"
    all_goals exact ⟨_, c, rfl, .inl ⟨by decide, by decide, rfl, hnone⟩⟩
  | some resource =>
    cases hcommand : resource.command? call call.method with
    | none =>
      have hnone : ∀ command, ¬ call.Gives command := by
        rintro command ⟨other, hfound, hgives⟩
        obtain rfl := Option.some.inj (hresource.symm.trans hfound)
        rw [hcommand] at hgives
        cases hgives
      unfold serve answer
      simp only [hresource, hcommand]
      cases call.method == "HEAD"
      all_goals exact ⟨_, c, rfl, .inl ⟨by decide, by decide, rfl, hnone⟩⟩
    | some checked =>
      cases checked with
      | flawed complaints =>
        have hnone : ∀ command, ¬ call.Gives command := by
          rintro command ⟨other, hfound, hgives⟩
          obtain rfl := Option.some.inj (hresource.symm.trans hfound)
          rw [hcommand] at hgives
          cases hgives
        have hstatus : 300 ≤ (Reply.refused complaints).status ∧
            (Reply.refused complaints).status < 500 := by
          unfold Reply.refused
          split
          · exact ⟨show 300 ≤ 400 by decide, show 400 < 500 by decide⟩
          · exact ⟨show 300 ≤ 422 by decide, show 422 < 500 by decide⟩
        unfold serve answer
        simp only [hresource, hcommand]
        cases call.method == "HEAD"
        all_goals exact ⟨_, c, rfl, .inl ⟨hstatus.1, hstatus.2, rfl, hnone⟩⟩
      | sound command =>
        have hgives : call.Gives command := ⟨resource, hresource, hcommand⟩
        obtain ⟨reply, c', hreply, -⟩ := carryOut_cases call command c
        exact ⟨reply, c', by rw [serve_of_gives hgives, hreply], .inr ⟨command, hgives, hreply⟩⟩

end Api

/-- A call is answered with the reply of `serve`. -/
theorem TimedStep.take_call_of_serve {at? : Option Int} {incoming : Api.Incoming}
    {c c' : Catalog} {reply : Api.Reply}
    (h : Api.serve incoming (before ⟨at?, .call incoming⟩ c) = .ok reply c') :
    take ⟨at?, .call incoming⟩ c = (⟨.ok (.reply reply), c'.journal⟩, c') :=
  take_of_ok _ (Op.run_bind_of_ok h _)

/-- The code of the reply, if the answer is one. -/
def Answer.errorCode? (a : Answer) : Option String :=
  match a.outcome with
  | .ok (.reply r) => r.errorCode?
  | _ => none

/-! ### Refused calls -/

namespace Catalog

/-- Every call is answered, in whatever state the tables are. If it only asks, or if the reply
    sends the caller elsewhere, blames the call, or says that the tables refused a write, then
    all records of all tables are as they were. -/
theorem refused_call_changes_nothing (c : Catalog) (at? : Option Int) (incoming : Api.Incoming) :
    ∃ reply c', TimedStep.take ⟨at?, .call incoming⟩ c = (⟨.ok (.reply reply), c'.journal⟩, c') ∧
      (incoming.method = "GET" ∨ (300 ≤ reply.status ∧ reply.status < 500) ∨
          (reply.status = 500 ∧ reply.errorCode? = some "DATABASE_ERROR") →
        c'.store = c.store) := by
  obtain ⟨reply, c', hserve, hcases⟩ :=
    Api.serve_cases incoming (TimedStep.before ⟨at?, .call incoming⟩ c)
  refine ⟨reply, c', TimedStep.take_call_of_serve hserve, ?_⟩
  rcases hcases with ⟨-, -, hsame, -⟩ | ⟨command, hgives, hcarried⟩
  · intro _
    rw [hsame]
    rfl
  obtain ⟨found, last, hreply, hcommand⟩ :=
    Api.carryOut_cases incoming command (TimedStep.before ⟨at?, .call incoming⟩ c)
  obtain ⟨rfl, rfl⟩ : found = reply ∧ last = c' := by
    have heq := hreply.symm.trans hcarried
    cases heq
    exact ⟨rfl, rfl⟩
  rcases hcommand with hrun | ⟨fault, c'', -, -, -, hsame⟩
  · rintro (hmethod | ⟨hleast, hless⟩ | ⟨hstatus, hcode⟩)
    · -- the command asks
      obtain ⟨resource, -, hasks⟩ := hgives
      rw [hmethod] at hasks
      have hquiet := Api.Command.quiet_of_asks (Api.Resource.asks_of_get hasks)
      have hleft := hquiet.store_eq (TimedStep.before ⟨at?, .call incoming⟩ c)
      rwa [Op.left_of_ok hrun] at hleft
    -- a command that succeeds has no such reply
    · rcases command.yields_run _ _ _ hrun with hlow | rfl
      · omega
      · exact absurd hless (show ¬ 500 < 500 by decide)
    · rcases command.yields_run _ _ _ hrun with hlow | rfl
      · omega
      · cases hcode
  · exact fun _ => hsame

/-- A session that stores a folder inside itself, and two requests whose priorities lie at the two
    infinities. -/
def strained : Catalog :=
  (runFrom {}
    [⟨none, .upsert .workspace ⟨.value "w", {}⟩ "window"⟩,
     ⟨none, .upsert .folder
        ⟨.value "a", { workspaceId := .value "w", folderId := .value "a" }⟩ "window"⟩,
     ⟨none, .upsert (.request .http)
        ⟨.value "low", { workspaceId := .value "w", sortPriority := .value (-1.0 / 0.0),
                         call := {} }⟩ "window"⟩,
     ⟨none, .upsert (.request .http)
        ⟨.value "high", { workspaceId := .value "w", sortPriority := .value (1.0 / 0.0),
                          call := {} }⟩ "window"⟩]).2

/-- A call without a body. -/
def bare (method path : String) : Api.Incoming where
  method := method
  path := path
  query := []
  headers := []
  payload := .none

/-- The call that sends the folder as it is. -/
def resending : Api.Incoming where
  method := "POST"
  path := "/api/folders"
  query := []
  headers := []
  payload := .json (.object [("id", .text "a"), ("name", .text "a"), ("workspace_id", .text "w"),
    ("folder_id", .text "a")])

/-- A copy of the first request would get no number for its priority, so the tables refuse it. The
    folder that lies in itself has no authentication, and may not be sent as it is. None of the
    three calls changes anything. -/
theorem strained_refused_calls_change_nothing :
    strained.Reached ∧
      (let copying : TimedStep := ⟨none, .call (bare "POST" "/api/http-requests/low/duplicate")⟩
       (copying.take strained).1.errorCode? = some "DATABASE_ERROR" ∧
         (copying.take strained).2.store = strained.store) ∧
      (let asking : TimedStep := ⟨none, .call (bare "GET" "/api/folders/a/resolved-auth")⟩
       (asking.take strained).1.errorCode? = some "FOLDER_CYCLE" ∧
         (asking.take strained).2.store = strained.store) ∧
      (let sending : TimedStep := ⟨none, .call resending⟩
       (sending.take strained).1.errorCode? = some "FOLDER_CYCLE" ∧
         (sending.take strained).2.store = strained.store) := by
  refine ⟨.runFrom (.start rfl) _, ?_, ?_, ?_⟩
  · intro copying
    have hcode : (copying.take strained).1.errorCode? = some "DATABASE_ERROR" := by
      decide +kernel
    have hstatus : (copying.take strained).1.status? = some 500 := by decide +kernel
    obtain ⟨reply, c', htake, hsame⟩ := refused_call_changes_nothing strained none
      (bare "POST" "/api/http-requests/low/duplicate")
    rw [htake] at hcode hstatus ⊢
    exact ⟨hcode, hsame (.inr (.inr ⟨Option.some.inj hstatus, hcode⟩))⟩
  · intro asking
    have hcode : (asking.take strained).1.errorCode? = some "FOLDER_CYCLE" := by decide +kernel
    obtain ⟨reply, c', htake, hsame⟩ := refused_call_changes_nothing strained none
      (bare "GET" "/api/folders/a/resolved-auth")
    rw [htake] at hcode ⊢
    exact ⟨hcode, hsame (.inl rfl)⟩
  · intro sending
    have hcode : (sending.take strained).1.errorCode? = some "FOLDER_CYCLE" := by decide +kernel
    have hstatus : (sending.take strained).1.status? = some 409 := by decide +kernel
    obtain ⟨reply, c', htake, hsame⟩ := refused_call_changes_nothing strained none
      resending
    rw [htake] at hcode hstatus ⊢
    have hconflict : reply.status = 409 := Option.some.inj hstatus
    exact ⟨hcode, hsame (.inr (.inl ⟨by omega, by omega⟩))⟩

end Catalog

end RequestCatalog
