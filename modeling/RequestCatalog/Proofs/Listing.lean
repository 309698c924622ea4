import RequestCatalog.Proofs.Duplicate
import RequestCatalog.Proofs.FinitePriorities
import RequestCatalog.Proofs.Gathering

/-! # Why a listing or a copy fails

  A listing fails as a whole if one of its records cannot be shown, and a copy fails if it
  cannot be made, stored or shown. Where all priorities are finite, free-form values are the
  only reason: `Command.shown` are the records that a listing shows or that are copied, and a
  call fails exactly if the authentication of one of them is nested too deep, or a text in
  its authentication or entries is garbled.

  `Roomy.priorities_finite` puts this together with the priorities themselves.
-/

namespace RequestCatalog

/-! ### Depth -/

/-- Entries as they are stored are not high. -/
theorem Api.Form.height_storedEntries (es : List HeaderEntry) :
    (storedEntries es).height ≤ 3 := by
  have hentry : ∀ e : HeaderEntry, e.toJson.height = 2 := by
    rintro ⟨name, value, enabled, _ | id⟩ <;> rfl
  have hitems : Json.heightOfItems (es.map HeaderEntry.toJson) ≤ 2 := by
    induction es with
    | nil => exact Nat.zero_le 2
    | cons e rest ih =>
      rw [List.map_cons, Json.heightOfItems, hentry]
      omega
  rw [storedEntries, Json.height]
  omega

namespace Settings

variable {s : Settings}

/-- Settings that are shown are not too deep to be copied. -/
theorem Presentable.height_sketch (h : s.Presentable) (hproper : s.Proper) :
    s.sketch.height ≤ RequestCatalog.Sketch.greatestCopied := by
  obtain ⟨es, hes⟩ := hproper.entries
  have hentries : s.entries.value.height ≤ 3 := by
    rw [hes]
    exact Api.Form.height_storedEntries es
  have hauth : s.authentication.value.height ≤ 256 := h.height
  show max s.authentication.value.height s.entries.value.height ≤ 496
  omega

/-- The copy of settings, completed over the defaults, has the authentication of its source. -/
theorem Proper.authentication_copy (h : s.Proper) (rule : ColumnRule) :
    ((s.sketch.over Given.laidOver blank).copy.over rule
      defaults).complete.kept.authentication.value = s.authentication.value := by
  obtain ⟨members, hmembers⟩ := h.authentication
  have hcopy : (s.sketch.over Given.laidOver blank).copy.authentication =
      some s.authentication.loosened := by
    simp [Sketch.copy, Sketch.over, Settings.sketch, blank, FreeForm.laid,
      h.authentication.null_agrees]
  show ((FreeForm.laid (s.sketch.over Given.laidOver blank).copy.authentication
    (some (.written (.object [])))).getD (.written .null)).kept.value = _
  rw [hcopy, hmembers]
  show (if (FreeForm.written (.object [])).agrees s.authentication.loosened then
    FreeForm.written (.object []) else s.authentication.loosened).kept.value = _
  unfold FreeForm.agrees FreeForm.loosened
  rw [hmembers]
  split
  · next hagrees =>
    -- the default stays where the copy agrees with it
    obtain rfl : members = [] := by
      have hlength : (0 == members.length && true) = true := hagrees
      rw [Bool.and_true, beq_iff_eq] at hlength
      exact List.length_eq_zero_iff.mp hlength.symm
    rfl
  · rfl

/-- The copy of settings, completed over the defaults, has the entries of its source. -/
theorem Proper.entries_copy (h : s.Proper) (rule : ColumnRule) :
    ((s.sketch.over Given.laidOver blank).copy.over rule
      defaults).complete.kept.entries.value = s.entries.value := by
  obtain ⟨items, hitems⟩ := h.entries.objects
  have hcopy : (s.sketch.over Given.laidOver blank).copy.entries = some s.entries.loosened := by
    simp [Sketch.copy, Sketch.over, Settings.sketch, blank, FreeForm.laid, h.entries.null_agrees]
  show ((FreeForm.laid (s.sketch.over Given.laidOver blank).copy.entries
    (some (.written (.list [])))).getD (.written .null)).kept.value = _
  rw [hcopy, hitems]
  show (if (FreeForm.written (.list [])).agrees s.entries.loosened then
    FreeForm.written (.list []) else s.entries.loosened).kept.value = _
  unfold FreeForm.agrees FreeForm.loosened
  rw [hitems]
  cases items with
  | nil => rfl
  | cons first rest => rfl

end Settings

/-- The copy of a request can be shown if the request can. -/
theorem Store.presentable_copy_iff {s : Store} {p : Protocol} {r copy : Row (.request p)}
    (hproper : r.data.Proper) {id : String} (hnew : s.holds ⟨.request p, id⟩ = false)
    {place : Float} {now : Instant}
    (hcandidate : s.candidate id (Op.copyAt r.draft place).data now = .ok copy) :
    copy.data.Presentable ↔ r.data.Presentable := by
  have hproper : r.data.settings.Proper := hproper
  obtain ⟨-, -, ⟨old, hget, -⟩ | ⟨-, -, hcolumns⟩⟩ := candidate_cases hcandidate
  · rw [get?_eq_none_iff.mpr hnew] at hget
    cases hget
  have hsettings := (Sketch.columns?_request hcolumns).2.2.2.2.2
  have hauthentication : copy.data.settings.authentication.value =
      r.data.settings.authentication.value := by
    rw [hsettings, ← hproper.authentication_copy Given.filledFrom]
    cases p <;> rfl
  have hentries : copy.data.settings.entries.value = r.data.settings.entries.value := by
    rw [hsettings, ← hproper.entries_copy Given.filledFrom]
    cases p <;> rfl
  constructor
  · rintro ⟨hheight, hsound, hentriesSound⟩
    exact ⟨hauthentication ▸ hheight, hauthentication ▸ hsound, hentries ▸ hentriesSound⟩
  · rintro ⟨hheight, hsound, hentriesSound⟩
    exact ⟨hauthentication ▸ hheight, hauthentication ▸ hsound, hentries ▸ hentriesSound⟩

/-! ### Records that are shown -/

namespace Api

/-- The command lists records or copies one. -/
def Command.listsOrCopies : Command → Bool
  | .listWorkspaces | .listFolders _ | .listRequests _ _ | .listContents _ _ => true
  | .duplicate _ _ _ => true
  | _ => false

/-- The records that a listing shows, and the one that is copied. -/
def Command.shown (s : Store) : Command → (k : Kind) × List (Row k)
  | .listWorkspaces => ⟨.workspace, s.workspaces⟩
  | .listFolders workspaceId => ⟨.folder, s.foldersOf workspaceId⟩
  | .listRequests p workspaceId => ⟨.request p, s.requestsOf p (some workspaceId)⟩
  | .listContents p folderId => ⟨.request p, (s.requestsUnder p folderId).toOption.getD []⟩
  | .duplicate p id _ => ⟨.request p, (s.get? (.request p) id).toList⟩
  | _ => ⟨.workspace, []⟩

/-- A record that the command shows or copies has settings that cannot be shown. -/
def Command.Unpresentable (command : Command) (s : Store) : Prop :=
  ∃ row ∈ (command.shown s).2, ¬ row.data.Presentable

theorem Command.unpresentable_listContents {p : Protocol} {folderId : String} {s : Store} :
    (Command.listContents p folderId).Unpresentable s ↔
      ∃ r ∈ (s.requestsUnder p folderId).toOption.getD [], ¬ r.data.Presentable := Iff.rfl

theorem Command.unpresentable_duplicate {p : Protocol} {id : String} {source : Source} {s : Store} :
    (Command.duplicate p id source).Unpresentable s ↔
      ∃ r ∈ (s.get? (.request p) id).toList, ¬ r.data.Presentable := Iff.rfl

end Api

namespace Store

variable {s : Store}

/-- Nothing but its settings may keep a record from being shown. -/
structure Showable (s : Store) : Prop where
  proper : s.Proper
  fits : s.Fits
  finite : s.FinitePriorities

/-- A showable record is shown if its settings can be. -/
theorem Showable.shownRow?_isSome_iff (h : s.Showable) {k : Kind} (hkind : ∀ p, k ≠ .exchange p)
    {row : Row k} (hrow : row ∈ s.rows k) :
    (Api.shownRow? row).isSome = true ↔ row.data.Presentable := by
  rw [Api.shownRow?_isSome_iff hkind (h.proper k row hrow) (h.fits k row hrow)]
  exact and_iff_right (h.finite k row hrow)

end Store

/-- A reply that would show something fails exactly if it cannot be shown. -/
theorem Api.Reply.showing_status_iff {status : Nat} (hstatus : status ≠ 500) (shown : Option Json) :
    (showing status shown).status = 500 ↔ ¬ shown.isSome = true := by
  cases shown with
  | none => exact iff_of_true rfl (by simp)
  | some j => exact iff_of_false hstatus (by simp)

/-- A listing of stored records, in whatever order, fails exactly if the settings of one of them
    cannot be shown. -/
theorem Store.Showable.listing_status_iff {s : Store} (h : s.Showable) {k : Kind}
    (hkind : ∀ p, k ≠ .exchange p) {rows shown : List (Row k)} (hperm : rows.Perm shown)
    (hstored : ∀ row ∈ shown, row ∈ s.rows k) :
    (Api.Reply.showing 200 (Api.shownRows? rows)).status = 500 ↔
      ∃ row ∈ shown, ¬ row.data.Presentable := by
  have hshown : ∀ row ∈ rows, (Api.shownRow? row).isSome = true ↔ row.data.Presentable :=
    fun row hrow => h.shownRow?_isSome_iff hkind (hstored row (hperm.mem_iff.mp hrow))
  rw [Api.Reply.showing_status_iff (by decide), Api.shownRows?_isSome_iff]
  constructor
  · intro hnot
    by_contra hall
    push Not at hall
    exact hnot fun row hrow => (hshown row hrow).mpr (hall row (hperm.mem_iff.mp hrow))
  · rintro ⟨row, hrow, hspoiled⟩ hall
    have hmem := hperm.mem_iff.mpr hrow
    exact hspoiled ((hshown row hmem).mp (hall row hmem))

/-! ### Answers -/

namespace Api

/-- The command comes to this reply, whether it succeeds or fails. -/
def Command.Answers (command : Command) (c : Catalog) (reply : Reply) (c' : Catalog) : Prop :=
  command.run c = .ok reply c' ∨
    ∃ fault, command.run c = .error fault c' ∧ (∀ v, fault ≠ .violation v) ∧
      reply = .ofFault fault

namespace Command

variable {c : Catalog} (hshowable : c.store.Showable)

include hshowable

theorem answers_listWorkspaces : ∃ reply, Command.listWorkspaces.Answers c reply c ∧
    (reply.status = 500 ↔ Command.listWorkspaces.Unpresentable c.store) :=
  ⟨_, .inl rfl, hshowable.listing_status_iff (by simp) (List.mergeSort_perm _ _) fun _ => id⟩

theorem answers_listFolders (workspaceId : String) :
    ∃ reply, (Command.listFolders workspaceId).Answers c reply c ∧
      (reply.status = 500 ↔ (Command.listFolders workspaceId).Unpresentable c.store) := by
  have hstored : ∀ f ∈ c.store.foldersOf workspaceId, f ∈ c.store.rows .folder :=
    fun _ => List.mem_of_mem_filter
  exact ⟨_, .inl rfl, hshowable.listing_status_iff (by simp) (Priority.perm_sort _) hstored⟩

theorem answers_listRequests (p : Protocol) (workspaceId : String) :
    ∃ reply, (Command.listRequests p workspaceId).Answers c reply c ∧
      (reply.status = 500 ↔ (Command.listRequests p workspaceId).Unpresentable c.store) := by
  have hstored : ∀ r ∈ c.store.requestsOf p (some workspaceId), r ∈ c.store.rows (.request p) :=
    fun _ => List.mem_of_mem_filter
  exact ⟨_, .inl rfl, hshowable.listing_status_iff (by simp) (Priority.perm_sort _) hstored⟩

theorem answers_listContents (hdistinct : c.store.Distinct) (p : Protocol) (folderId : String) :
    ∃ reply, (Command.listContents p folderId).Answers c reply c ∧
      (reply.status = 500 ↔ (Command.listContents p folderId).Unpresentable c.store) := by
  have hconsult := Op.run_consult (fun s => s.requestsUnder p folderId) c
  cases hrows : c.store.requestsUnder p folderId with
  | error e =>
    -- a loop of folders has a reply of its own
    obtain rfl := Store.requestsUnder_error hdistinct hrows
    have hrun : (Command.listContents p folderId).run c = .error (.folderCycle folderId) c := by
      show (Op.consult (fun s => s.requestsUnder p folderId) >>= _) c = _
      rw [Op.run_bind, hconsult, hrows]
    refine ⟨_, .inr ⟨_, hrun, by simp, rfl⟩, iff_of_false (show ¬ 409 = 500 by decide) ?_⟩
    rw [unpresentable_listContents, hrows]
    simp [Except.toOption]
  | ok rows =>
    rw [hrows] at hconsult
    have hstored : ∀ r ∈ rows, r ∈ c.store.rows (.request p) :=
      fun _ => Store.mem_rows_of_requestsUnder hdistinct hrows
    refine ⟨_, .inl (Op.run_bind_of_ok hconsult _), ?_⟩
    rw [unpresentable_listContents, hrows]
    exact hshowable.listing_status_iff (by simp) (List.Perm.refl rows) hstored

end Command

/-! ### Copies -/

namespace Command

variable {c : Catalog} {p : Protocol} {id : String} {r : Row (.request p)}
  (hget : c.store.get? (.request p) id = some r)

include hget

/-- A copy that comes to the write has an identifier made for it, which is new if all are. -/
theorem not_holds_nextId {source : Source}
    (hheight : r.draft.data.height ≤ Sketch.greatestCopied)
    (hfresh : c.MakesFresh ((Command.duplicate p id source).run.left c)) :
    c.store.holds ⟨.request p, c.nextId (.request p)⟩ = false := by
  have hissued : ((Command.duplicate p id source).run.left c).issued =
      c.issued ++ [⟨.request p, c.nextId (.request p)⟩] := by
    show ((Op.fetch (.request p) id >>= _).left c).issued = _
    rw [Op.left_bind_of_ok (Op.run_fetch hget), Op.left_map]
    exact (Op.duplicate_left_of_height r.draft c source.name hheight rfl).1
  exact hfresh _ (by simp [hissued])

/-- A stored request that is not too deep is copied, and the reply shows the copy if it can. -/
theorem run_duplicate (source : Source) (hintact : c.store.Intact)
    (hwritable : c.store.Writable) (hfinite : c.store.FinitePriorities)
    (hheight : r.draft.data.height ≤ Sketch.greatestCopied)
    (hnew : c.store.holds ⟨.request p, c.nextId (.request p)⟩ = false) :
    ∃ (copy : Row (.request p)) (c' : Catalog),
      (Command.duplicate p id source).run c = .ok (.showing 201 (shownRow? copy)) c' ∧
      c'.store = c.store.put copy ∧
      c.store.write (c.nextId (.request p))
        (Op.copyAt r.draft (c.store.placeAfter r).1).data c.now = .ok (copy, c'.store) := by
  have hr := Store.mem_of_get? hget
  have hnumber := (hintact.placeAfter_spec hfinite hr).1
  obtain ⟨copy, hwrite, -⟩ := hintact.write_copy hr hnew hnumber c.now
  have hplace : Priority.after ⟨r.draft.id.toOption, r.requestPriority⟩
      ((Op.siblings c.store r.draft).map Op.placed) =
      ((c.store.placeAfter r).1, (c.store.placeAfter r).2) := rfl
  have hcopied := Op.run_duplicate_of_write r.draft c source hheight rfl hplace
    (hwritable _ r hr) hwrite
  exact ⟨copy, _, (Op.run_bind_of_ok (Op.run_fetch hget) _).trans
    (Op.run_bind_of_ok hcopied _), rfl, hwrite⟩

/-- A copy with room is shown if the settings of its source can be. -/
theorem shown_copy_iff (hshowable : c.store.Showable) (hintact : c.store.Intact)
    (hwritable : c.store.Writable)
    (hroom : c.store.HasRoomBehind r)
    (hnew : c.store.holds ⟨.request p, c.nextId (.request p)⟩ = false)
    {copy : Row (.request p)} {t : Store} {now : Instant}
    (hwrite : c.store.write (c.nextId (.request p))
      (Op.copyAt r.draft (c.store.placeAfter r).1).data now = .ok (copy, t)) :
    (shownRow? copy).isSome = true ↔ r.data.Presentable := by
  have hr := Store.mem_of_get? hget
  have hplace := (hintact.placeAfter_spec hshowable.finite hr).2.mpr hroom
  have hcommit : c.store.Commit t := .copy hr hnew hwrite (hwritable _ r hr)
  have ht : t.Showable := ⟨hshowable.proper.commit hcommit, hshowable.fits.commit hcommit,
    (hshowable.finite.write_copy_iff hwrite).mpr hplace⟩
  obtain ⟨hcandidate, -, rfl⟩ := Store.write_eq_ok_iff.mp hwrite
  rw [ht.shownRow?_isSome_iff (by simp) (Store.mem_rows_put.mpr (.inl rfl))]
  exact Store.presentable_copy_iff (hshowable.proper _ r hr) hnew hcandidate

end Command

namespace Command

variable {c : Catalog} (hshowable : c.store.Showable)

include hshowable

theorem answers_duplicate (p : Protocol) (id : String) (source : Source)
    (hintact : c.store.Intact) (hwritable : c.store.Writable)
    (hroom : (Command.duplicate p id source).HasRoom c.store)
    (hfresh : c.MakesFresh ((Command.duplicate p id source).run.left c)) :
    ∃ reply c', (Command.duplicate p id source).Answers c reply c' ∧
      (reply.status = 500 ↔ (Command.duplicate p id source).Unpresentable c.store) := by
  cases hget : c.store.get? (.request p) id with
  | none =>
    have hrun : (Command.duplicate p id source).run c =
        .error (.notFound (.request p) (.text id)) c := by
      show (Op.fetch (.request p) id >>= _) c = _
      rw [Op.run_bind, Op.fetch, Op.run_consult, Store.fetch_some, hget]
    refine ⟨_, _, .inr ⟨_, hrun, by simp, rfl⟩, iff_of_false (show ¬ 404 = 500 by decide) ?_⟩
    simp [unpresentable_duplicate, hget]
  | some r =>
    have hproper : r.data.settings.Proper := hshowable.proper _ r (Store.mem_of_get? hget)
    have hspoiled : (Command.duplicate p id source).Unpresentable c.store ↔
        ¬ r.data.Presentable := by
      simp [unpresentable_duplicate, hget]
    by_cases hheight : r.draft.data.height ≤ Sketch.greatestCopied
    · have hnew := not_holds_nextId hget hheight hfresh
      obtain ⟨copy, c', hrun, -, hwrite⟩ :=
        run_duplicate hget source hintact hwritable hshowable.finite hheight hnew
      refine ⟨_, c', .inl hrun, ?_⟩
      rw [Reply.showing_status_iff (by decide), hspoiled,
        shown_copy_iff hget hshowable hintact hwritable (hroom r hget) hnew hwrite]
    · have hrun : (Command.duplicate p id source).run c = .error .tooDeep c := by
        show (Op.fetch (.request p) id >>= fun row =>
          Op.duplicate row.draft source.name >>= _) c = _
        rw [Op.run_bind_of_ok (Op.run_fetch hget), Op.run_bind, Op.duplicate, Op.run_bind,
          Op.run_copy, if_neg hheight]
      refine ⟨_, _, .inr ⟨_, hrun, by simp, rfl⟩,
          iff_of_true rfl (hspoiled.mpr fun hpresentable => ?_)⟩
      exact hheight (Settings.Presentable.height_sketch hpresentable hproper)

/-- A listing or a copy fails exactly if the settings of a record that is shown or copied cannot be
    shown. -/
theorem answers_of_room {command : Command} (hintact : c.store.Intact)
    (hwritable : c.store.Writable) (hcommand : command.listsOrCopies = true)
    (hroom : command.HasRoom c.store)
    (hfresh : c.MakesFresh (command.run.left c)) :
    ∃ reply c', command.Answers c reply c' ∧
        (reply.status = 500 ↔ command.Unpresentable c.store) := by
  cases command with
  | listWorkspaces =>
    obtain ⟨reply, h⟩ := answers_listWorkspaces hshowable
    exact ⟨reply, c, h⟩
  | listFolders workspaceId =>
    obtain ⟨reply, h⟩ := answers_listFolders hshowable workspaceId
    exact ⟨reply, c, h⟩
  | listRequests p workspaceId =>
    obtain ⟨reply, h⟩ := answers_listRequests hshowable p workspaceId
    exact ⟨reply, c, h⟩
  | listContents p folderId =>
    obtain ⟨reply, h⟩ := answers_listContents hshowable hintact.distinct p folderId
    exact ⟨reply, c, h⟩
  | duplicate p id source =>
    exact answers_duplicate hshowable p id source hintact hwritable hroom hfresh
  | _ => cases hcommand

end Command

end Api

/-- A call is answered with the reply that its command comes to. -/
theorem TimedStep.take_call_of_answers {at? : Option Int} {incoming : Api.Incoming}
    {command : Api.Command} (hgives : incoming.Gives command) {c c' : Catalog} {reply : Api.Reply}
    (h : command.Answers (before ⟨at?, .call incoming⟩ c) reply c') :
    take ⟨at?, .call incoming⟩ c = (⟨.ok (.reply reply), c'.journal⟩, c') := by
  rcases h with hrun | ⟨fault, hrun, hfault, rfl⟩
  · exact take_call_of_ok hgives hrun
  · exact take_call_of_fault hgives hrun hfault

/-! ### Runs with room for every copy -/

namespace Catalog

variable {c : Catalog}

theorem Roomy.showable (hc : c.Roomy) : c.store.Showable :=
  ⟨hc.served.proper, hc.served.fits, hc.finite⟩

/-- Identifiers that a call makes are those that its command makes. -/
theorem MakesFresh.of_gives {incoming : Api.Incoming} {command : Api.Command}
    (hgives : incoming.Gives command) {at? : Option Int}
    (hfresh : c.MakesFresh (TimedStep.take ⟨at?, .call incoming⟩ c).2) :
    (TimedStep.before ⟨at?, .call incoming⟩ c).MakesFresh
      (command.run.left (TimedStep.before ⟨at?, .call incoming⟩ c)) := by
  rw [TimedStep.take_snd, Step.call_left, Op.left, Api.serve_of_gives hgives] at hfresh
  have hissued := (Api.carryOut_left incoming command
    (TimedStep.before ⟨at?, .call incoming⟩ c)).2
  unfold MakesFresh at hfresh ⊢
  rw [← hissued]
  exact hfresh

/-- Wherever calls get while there is room for every copy, all priorities are finite, and stay so
    under a further listing or copy with room. That fails exactly if the settings of a record that
    it shows or copies cannot be shown, so it never fails for a priority. -/
theorem Roomy.priorities_finite (hc : c.Roomy) :
    c.store.FinitePriorities ∧
      ∀ (at? : Option Int) (incoming : Api.Incoming) (command : Api.Command),
        incoming.Gives command → command.listsOrCopies = true → command.HasRoom c.store →
        c.MakesFresh (TimedStep.take ⟨at?, .call incoming⟩ c).2 →
        ∃ reply c', TimedStep.take ⟨at?, .call incoming⟩ c =
            (⟨.ok (.reply reply), c'.journal⟩, c') ∧
          c'.store.FinitePriorities ∧ (reply.status = 500 ↔ command.Unpresentable c.store) := by
  refine ⟨hc.finite, fun at? incoming command hgives hcommand hroom hfresh => ?_⟩
  have hgivesRoom : c.GivesRoom incoming := fun other hother => hgives.unique hother ▸ hroom
  have hnext := (hc.call at? incoming hfresh hgivesRoom).finite
  obtain ⟨reply, c', hanswers, hstatus⟩ := Api.Command.answers_of_room
    (c := TimedStep.before ⟨at?, .call incoming⟩ c) hc.showable hc.served.reached.intact
    hc.served.reached.writable hcommand hroom (hfresh.of_gives hgives)
  have htake := TimedStep.take_call_of_answers hgives hanswers
  rw [htake] at hnext
  exact ⟨reply, c', htake, hnext, hstatus⟩

/-- The call that copies the request of the run once more. -/
def copying : Api.Incoming where
  method := "POST"
  path := "/api/http-requests/r/duplicate"
  query := []
  headers := []
  payload := .json (.object [])

/-- After the run of calls the request is copied once more, into the gap in front of its first
    copy, and nothing fails. -/
theorem toured_priorities_finite :
    toured.store.FinitePriorities ∧
      ∃ reply c', TimedStep.take ⟨none, .call copying⟩ toured =
          (⟨.ok (.reply reply), c'.journal⟩, c') ∧
        c'.store.FinitePriorities ∧ reply.status ≠ 500 := by
  have hroomy : toured.Roomy := .runFrom (.start rfl) (by decide +kernel)
  have hgives : copying.Gives (.duplicate .http "r" .window) :=
    ⟨.copies .http "r", by decide +kernel, rfl⟩
  obtain ⟨hfinite, hcall⟩ := hroomy.priorities_finite
  obtain ⟨reply, c', htake, hnext, hstatus⟩ := hcall none copying _ hgives rfl
    (givesRoom_of_roomFor (by decide +kernel) _ hgives) (by decide +kernel)
  refine ⟨hfinite, reply, c', htake, hnext, fun hfails => ?_⟩
  obtain ⟨r, hr, hspoiled⟩ := hstatus.mp hfails
  have hpresentable : ∀ r ∈ (toured.store.get? (.request .http) "r").toList,
      r.data.settings.authentication.value.height ≤ 256 ∧
        r.data.settings.authentication.value.isSound = true ∧
        r.data.settings.entries.value.isSound = true := by decide +kernel
  obtain ⟨hheight, hsound, hentries⟩ := hpresentable r hr
  exact hspoiled ⟨hheight, hsound, hentries⟩

/-! ### A copy without room -/

/-- Without room behind its source, a copy is stored with a priority that is not finite, and the
    call fails. -/
theorem Roomy.copy_without_room (hc : c.Roomy) {incoming : Api.Incoming} {p : Protocol}
    {id : String} {source : Source} (hgives : incoming.Gives (.duplicate p id source))
    {r : Row (.request p)} (hget : c.store.get? (.request p) id = some r)
    (hheight : r.draft.data.height ≤ Sketch.greatestCopied)
    (hnew : c.store.holds ⟨.request p, c.nextId (.request p)⟩ = false)
    (hroom : ¬ c.store.HasRoomBehind r) (at? : Option Int) :
    ∃ c', TimedStep.take ⟨at?, .call incoming⟩ c = (⟨.ok (.reply .failed), c'.journal⟩, c') ∧
      ¬ c'.store.FinitePriorities := by
  have hr := Store.mem_of_get? hget
  have hintact := hc.served.reached.intact
  obtain ⟨copy, c', hrun, -, hwrite⟩ := Api.Command.run_duplicate
    (c := TimedStep.before ⟨at?, .call incoming⟩ c) hget source hintact
    hc.served.reached.writable hc.finite hheight hnew
  have hplace : ¬ (c.store.placeAfter r).1.isFinite = true := fun h =>
    hroom ((hintact.placeAfter_spec hc.finite hr).2.mp h)
  have hcommit : c.store.Commit c'.store := .copy hr hnew hwrite
    (hc.served.reached.writable _ r hr)
  obtain ⟨hcandidate, -, hput⟩ := Store.write_eq_ok_iff.mp hwrite
  have hmem : copy ∈ c'.store.rows (.request p) := by
    rw [hput]
    exact Store.mem_rows_put.mpr (.inl rfl)
  have hnone : Api.shownRow? copy = none := by
    rw [← Option.not_isSome_iff_eq_none, Api.shownRow?_isSome_iff (by simp)
      (hc.served.proper.commit hcommit _ copy hmem) (hc.served.fits.commit hcommit _ copy hmem)]
    rintro ⟨hpriority, -⟩
    exact hplace ((Priority.isFinite_kept_iff
      (Store.priority_of_candidate hcandidate rfl rfl)).mp (hpriority _ rfl))
  rw [hnone] at hrun
  refine ⟨c', TimedStep.take_call_of_ok hgives hrun, ?_⟩
  rwa [hc.finite.write_copy_iff hwrite]

/-- Two requests whose priorities are finite, while their sum is not, and a copy of the first. -/
def crowded : Catalog :=
  (runFrom {}
    [.post "/api/workspaces" [("id", .text "w"), ("name", .text "n")],
     .post "/api/http-requests" [("id", .text "a"), ("workspace_id", .text "w"),
      ("sort_priority", .real 1e308)],
     .post "/api/http-requests" [("id", .text "b"), ("workspace_id", .text "w"),
      ("sort_priority", .real 1.5e308)],
     .post "/api/http-requests/a/duplicate" []]).2

/-- The call that lists the requests. -/
def listing : Api.Incoming where
  method := "GET"
  path := "/api/http-requests"
  query := [("workspace_id", "w")]
  headers := []
  payload := .json (.object [])

/-- Calls reach a store with an infinite priority, and then the listing fails. -/
theorem crowded_not_finite :
    crowded.Served ∧ ¬ crowded.store.FinitePriorities ∧
      (TimedStep.take ⟨none, .call listing⟩ crowded).1.status? = some 500 := by
  refine ⟨.runFrom (.start rfl) (by decide +kernel), fun hfinite => ?_, by decide +kernel⟩
  obtain ⟨r, hr, hinfinite⟩ : ∃ r ∈ crowded.store.rows (.request .http),
      ¬ r.requestPriority.isFinite = true := by decide +kernel
  exact hinfinite (hfinite _ r hr _ rfl)

end Catalog

end RequestCatalog
