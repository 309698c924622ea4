import RequestCatalog.Proofs.Containment
import RequestCatalog.Proofs.Refusals

/-! # Which record a call is about

  Among served catalogues a call does one of four things, and each can be told by the
  record that the call names: it rests, it writes the record that was sent, it writes the
  copy of a stored request, or it deletes a stored record with all that depends on it
  (`Command.Acts`). A deletion that the tables refuse rests. What came back from requests is never
  sent, so a deleted request has nothing of this kind to be deleted before it.

  Questions do nothing but answer. `Op.Alike` compares the answers to one question in two
  catalogues: the result and what is reported are the same.
-/

namespace RequestCatalog

open Relation

/-! ### What came back from requests -/

namespace Store

variable {s t : Store}

/-- Nothing is stored that came back from a request. -/
def Unanswered (s : Store) : Prop :=
  ∀ p, s.rows (.exchange p) = []

theorem Unanswered.commit (hs : s.Unanswered) (h : s.Commit t) : t.Unanswered := by
  intro p
  cases h with
  | @write k form id now row _ hsent _ _ hwrite =>
    obtain ⟨-, -, rfl⟩ := write_eq_ok_iff.mp hwrite
    have hother : Kind.exchange p ≠ k := by
      rintro rfl
      exact Api.Form.not_sent hsent
    rw [rows_put_ne hother]
    exact hs p
  | copy _ _ hwrite =>
    obtain ⟨-, -, rfl⟩ := write_eq_ok_iff.mp hwrite
    rw [rows_put_ne (by simp)]
    exact hs p
  | delete key =>
    have hsub : ((s.delete key).rows (.exchange p)).Sublist (s.rows (.exchange p)) :=
      loses_delete.1
    rw [hs p] at hsub
    exact List.sublist_nil.mp hsub

end Store

/-- Calls never send what came back from a request. -/
theorem Catalog.Served.unanswered {c : Catalog} (h : c.Served) : c.store.Unanswered :=
  h.store_induction (fun _ => Store.rows_empty _) fun _ _ _ hs => hs.commit

/-- A deleted request of which nothing came back leaves what any deleted record leaves. -/
theorem Api.deleteStored_left {k : Kind} (row : Row k) (source : String) {c : Catalog}
    (hc : c.store.Unanswered) :
    ((deleteStored row source).left c).store = c.store.erased row.key := by
  cases k with
  | workspace | folder | exchange p => exact Op.delete_left row source c
  | request p =>
    have hnone : c.store.exchangesOf p row.id = [] := by
      unfold Store.exchangesOf
      rw [hc p]
      rfl
    have hfirst : Op.deleteExchanges p row.id source c = .ok [] c := by
      show Op.deleteAll source (c.store.exchangesOf p row.id) c = _
      rw [hnone]
      rfl
    show ((Op.deleteExchanges p row.id source >>= fun _ => Op.delete row source).left c).store = _
    rw [Op.left_bind_of_ok hfirst]
    exact Op.delete_left row source c

/-! ### What a command does -/

/-- The workspace that a record belongs to. A workspace belongs to itself. -/
def Row.workspaceId : {k : Kind} → Row k → String
  | .workspace, w => w.id
  | .folder, f => f.data.workspaceId
  | .request _, r => r.data.workspaceId
  | .exchange _, e => e.data.workspaceId

namespace Api

/-- The workspace that was sent with a record. -/
def Form.workspaceId? : {k : Kind} → Form k → Option String
  | .folder, form => some form.data.workspaceId
  | .request _, form => some form.data.workspaceId
  | .workspace, _ | .exchange _, _ => none

/-- A record is stored in the workspace that was sent with it. -/
theorem Form.workspaceId_of_candidate {k : Kind} {form : Form k} {s : Store} {id : String}
    {now : Instant} {row : Row k} (h : s.candidate id form.draft.data now = .ok row) :
    ∀ w, form.workspaceId? = some w → row.workspaceId = w := by
  intro w hw
  cases k with
  | workspace | exchange p => cases hw
  | folder =>
    obtain rfl := Option.some.inj hw
    exact (Store.place_of_candidate_folder h rfl rfl).1
  | request p =>
    obtain rfl := Option.some.inj hw
    exact (Store.place_of_candidate_request h rfl rfl).1

/-- What a call for the command makes of the store, told by the record that it is about. -/
inductive Command.Acts (command : Command) (s : Store) : Store → Prop where
  /-- Nothing. -/
  | rests : Acts command s s
  /-- The record that was sent is written, in the place of the one that it names or as a new
      one. -/
  | writes {k : Kind} {form : Form k} {row : Row k} (hform : command.form? = some ⟨k, form⟩)
      (hid : row.id = form.id ∨ s.holds row.key = false)
      (hworkspace : ∀ w, form.workspaceId? = some w → row.workspaceId = w) :
      Acts command s (s.put row)
  /-- The copy of a stored request is written as a new record, in the workspace of its source. -/
  | copies {p : Protocol} {id : String} {source : Source} {r row : Row (.request p)}
      (hcommand : command = .duplicate p id source) (hget : s.get? (.request p) id = some r)
      (hnew : s.holds row.key = false) (hworkspace : row.data.workspaceId = r.data.workspaceId) :
      Acts command s (s.put row)
  /-- A stored record is deleted with all that depends on it. -/
  | deletes {k : Kind} {id : String} {source : Source} {row : Row k}
      (hcommand : command = .delete k id source) (hget : s.get? k id = some row) :
      Acts command s (s.delete row.key)

namespace Command

variable {command : Command} {c : Catalog}

/-- A record that is sent is written under its own identifier or under a new one, or not at
    all. -/
theorem Acts.of_write {k : Kind} {form : Form k} (hform : command.form? = some ⟨k, form⟩)
    (source : String) (hfresh : c.MakesFresh ((form.write source).left c)) :
    command.Acts c.store ((form.write source).left c).store := by
  rcases form.write_left source c with hsame | ⟨-, -, hissued, row, hwrite⟩
  · rw [hsame]
    exact .rests
  · obtain ⟨hcandidate, -, hput⟩ := Store.write_eq_ok_iff.mp hwrite
    have hrow : row.id = c.idFor form.draft := (Store.candidate_cases hcandidate).1
    have hid : row.id = form.id ∨ c.store.holds row.key = false := by
      unfold Row.key
      rw [hrow]
      rcases Form.idFor_cases_of_fresh hissued hfresh with ⟨hnamed, -⟩ | ⟨-, hnew⟩
      · exact .inl hnamed.symm
      · exact .inr hnew
    rw [hput]
    exact .writes hform hid (Form.workspaceId_of_candidate hcandidate)

/-- A record that has to be admitted is written or not, by what is decided first. -/
theorem Acts.of_admission {k : Kind} {form : Form k} (hform : command.form? = some ⟨k, form⟩)
    (check : Store → Except Fault Unit) (source : String) (reply : Row k → Reply)
    (hfresh : c.MakesFresh ((Op.consult check >>= fun _ => form.write source >>=
      fun row => (pure (reply row) : Op Reply)).left c)) :
    command.Acts c.store ((Op.consult check >>= fun _ => form.write source >>=
      fun row => (pure (reply row) : Op Reply)).left c).store := by
  rw [Op.left_consult_bind] at hfresh ⊢
  cases hcheck : check c.store with
  | error e => exact .rests
  | ok =>
    simp only [hcheck, Op.left_map] at hfresh ⊢
    exact .of_write hform source hfresh

theorem delete_left_of_found {k : Kind} {id : String} (source : Source) {row : Row k}
    (hget : c.store.get? k id = some row) :
    (Command.delete k id source).run.left c = (deleteStored row source.name).left c :=
  (Op.left_bind_of_ok (Op.run_fetch hget) _).trans (Op.left_map _ _ c)

theorem delete_left {k : Kind} {id : String} (source : Source) {row : Row k}
    (hc : c.store.Unanswered) (hget : c.store.get? k id = some row) :
    ((Command.delete k id source).run.left c).store = c.store.erased row.key := by
  rw [delete_left_of_found source hget]
  exact deleteStored_left row source.name hc

theorem delete_left_of_missing {k : Kind} {id : String} (source : Source)
    (hget : c.store.get? k id = none) : (Command.delete k id source).run.left c = c := by
  show ((Op.consult fun s => s.fetch k (some id)) >>= _).left c = c
  rw [Op.left_consult_bind, Store.fetch_some, hget]

/-- What a command does to a store of which nothing came back, if the identifiers that it makes
    are new. -/
theorem acts_run (command : Command) (hc : c.store.Unanswered)
    (hfresh : c.MakesFresh (command.run.left c)) :
    command.Acts c.store (command.run.left c).store := by
  cases hasks : command.asks with
  | true =>
    rw [(quiet_of_asks hasks).store_eq c]
    exact .rests
  | false =>
    cases command with
    | writeWorkspace form source =>
      have hleft : (Command.writeWorkspace form source).run.left c =
          (form.write source.name).left c := Op.left_map _ _ c
      rw [hleft] at hfresh ⊢
      exact .of_write rfl source.name hfresh
    | writeFolder form source => exact .of_admission rfl _ source.name _ hfresh
    | writeRequest p form source => exact .of_admission rfl _ source.name _ hfresh
    | delete k id source =>
      cases hget : c.store.get? k id with
      | none =>
        rw [delete_left_of_missing source hget]
        exact .rests
      | some row =>
        rw [delete_left source hc hget]
        rcases c.store.erased_cases row.key with hsame | ⟨-, hdeleted⟩
        · rw [hsame]
          exact .rests
        · rw [hdeleted]
          exact .deletes rfl hget
    | duplicate p id source =>
      cases hget : c.store.get? (.request p) id with
      | none =>
        have hleft : (Command.duplicate p id source).run.left c = c := by
          show ((Op.consult fun s => s.fetch (.request p) (some id)) >>= _).left c = c
          rw [Op.left_consult_bind, Store.fetch_some, hget]
        rw [hleft]
        exact .rests
      | some r =>
        have hleft : (Command.duplicate p id source).run.left c =
            (Op.duplicate r.draft source.name).left c :=
          (Op.left_bind_of_ok (Op.run_fetch hget) _).trans (Op.left_map _ _ c)
        rw [hleft] at hfresh ⊢
        rcases Op.duplicate_left r.draft c source.name with
          hsame | ⟨hissued, -, priority, row, -, hwrite⟩
        · rw [hsame]
          exact .rests
        · obtain ⟨hcandidate, -, hput⟩ := Store.write_eq_ok_iff.mp hwrite
          have hnew : c.store.holds row.key = false := by
            unfold Row.key
            rw [(Store.candidate_cases hcandidate).1]
            exact hfresh _ (by simp [hissued])
          obtain ⟨hworkspace, -⟩ := Store.place_of_candidate_request hcandidate
            (Op.copyAt_workspaceId r _) (Op.copyAt_folderId r _)
          rw [hput]
          exact .copies rfl hget hnew hworkspace
    | _ => cases hasks

end Command

end Api

/-- Wherever calls get, a further call leaves the store as it was, or does what its command
    does. -/
theorem Catalog.Served.acts {c : Catalog} (hc : c.Served) {at? : Option Int}
    {incoming : Api.Incoming} (hfresh : c.MakesFresh (TimedStep.take ⟨at?, .call incoming⟩ c).2) :
    (TimedStep.take ⟨at?, .call incoming⟩ c).2.store = c.store ∨
      ∃ command, incoming.Gives command ∧
        command.Acts c.store (TimedStep.take ⟨at?, .call incoming⟩ c).2.store := by
  rcases TimedStep.take_call_cases hfresh with hsame | ⟨command, hgives, hstore, hfresh⟩
  · exact .inl hsame
  · right
    refine ⟨command, hgives, ?_⟩
    rw [hstore]
    exact command.acts_run (c := TimedStep.before ⟨at?, .call incoming⟩ c) hc.unanswered hfresh

/-! ### Questions in two catalogues -/

namespace Op

variable {α β : Type} {c d : Catalog}

/-- In both catalogues the operation comes to the same result, and the same is reported. -/
inductive Alike (op : Op α) (c d : Catalog) : Prop where
  | ok {a : α} {c' d' : Catalog} (hc : op c = .ok a c') (hd : op d = .ok a d')
      (hjournal : d'.journal = c'.journal) : Alike op c d
  | error {fault : Fault} {c' d' : Catalog} (hc : op c = .error fault c')
      (hd : op d = .error fault d') (hjournal : d'.journal = c'.journal) : Alike op c d

/-- A question that has the same answer in both stores, and what is done with it. -/
theorem alike_consult_bind {question : Store → Except Fault α} {f : α → Op β}
    (hsame : question d.store = question c.store) (hjournal : d.journal = c.journal)
    (hf : ∀ a, question c.store = .ok a → (f a).Alike c d) :
    (consult question >>= f).Alike c d := by
  have hc := run_consult question c
  have hd := run_consult question d
  rw [hsame] at hd
  cases hquestion : question c.store with
  | ok a =>
    rw [hquestion] at hc hd
    cases hf a hquestion with
    | ok hc' hd' hreported =>
      exact .ok ((run_bind_of_ok hc f).trans hc') ((run_bind_of_ok hd f).trans hd') hreported
    | error hc' hd' hreported =>
      exact .error ((run_bind_of_ok hc f).trans hc') ((run_bind_of_ok hd f).trans hd') hreported
  | error fault =>
    rw [hquestion] at hc hd
    have hfails : ∀ e : Catalog, consult question e = .error fault e →
        (consult question >>= f) e = .error fault e := by
      intro e hrun
      rw [run_bind, hrun]
    exact .error (hfails c hc) (hfails d hd) hjournal

theorem alike_pure (a : α) (hjournal : d.journal = c.journal) : (pure a : Op α).Alike c d :=
  .ok rfl rfl hjournal

theorem alike_ask_bind {question : Store → α} {f : α → Op β}
    (hsame : question d.store = question c.store) (hjournal : d.journal = c.journal)
    (hf : (f (question c.store)).Alike c d) : (ask question >>= f).Alike c d := by
  -- a question that always has an answer
  have hconsult : (ask question >>= f) =
      consult (fun s => (.ok (question s) : Except Fault α)) >>= f := rfl
  rw [hconsult]
  refine alike_consult_bind (congrArg _ hsame) hjournal ?_
  rintro a ha
  obtain rfl := Except.ok.inj ha
  exact hf

/-- Both stores hold the record that is fetched. -/
theorem alike_fetch_bind {k : Kind} {id : String} {row : Row k} {f : Row k → Op β}
    (hc : c.store.get? k id = some row) (hd : d.store.get? k id = some row)
    (hjournal : d.journal = c.journal) (hf : (f row).Alike c d) : (fetch k id >>= f).Alike c d := by
  have hsame : d.store.fetch k (some id) = c.store.fetch k (some id) := by
    rw [Store.fetch_some, Store.fetch_some, hc, hd]
  refine alike_consult_bind hsame hjournal fun found hfound => ?_
  rw [Store.fetch_some, hc] at hfound
  obtain rfl := Except.ok.inj hfound
  exact hf

/-- A question that is answered by walking up, with the same answer in both stores. -/
theorem alike_askUpwards_map {question : Store → Except Fault α} {f : α → β}
    (hsame : question d.store = question c.store) (hjournal : d.journal = c.journal) :
    (askUpwards question >>= fun a => (pure (f a) : Op β)).Alike c d := by
  have hfails : ∀ {e e' : Catalog} {fault : Fault}, askUpwards question e = .error fault e' →
      (askUpwards question >>= fun a => (pure (f a) : Op β)) e = .error fault e' := by
    intro e e' fault hrun
    rw [run_bind, hrun]
  cases hquestion : question c.store with
  | ok a =>
    exact .ok (run_bind_of_ok (run_askUpwards_of_ok hquestion) _)
      (run_bind_of_ok (run_askUpwards_of_ok (hsame.trans hquestion)) _) hjournal
  | error fault =>
    by_cases hcycle : ∃ id, fault = .folderCycle id
    · -- the loop is reported in both
      obtain ⟨id, rfl⟩ := hcycle
      exact .error (hfails (run_askUpwards_of_cycle hquestion))
        (hfails (run_askUpwards_of_cycle (hsame.trans hquestion)))
        (congrArg (· ++ [.circularChain id]) hjournal)
    · have hfault : ∀ id, fault ≠ .folderCycle id := fun id hid => hcycle ⟨id, hid⟩
      exact .error (hfails (run_askUpwards_of_fault hquestion hfault))
        (hfails (run_askUpwards_of_fault (hsame.trans hquestion) hfault)) hjournal

end Op

/-- A call for a command that comes to the same in both catalogues has the same answer. -/
theorem TimedStep.answer_of_alike {question : Api.Incoming} {command : Api.Command}
    (hgives : question.Gives command) {c d : Catalog} {first? second? : Option Int}
    (halike : command.run.Alike (before ⟨first?, .call question⟩ c)
      (before ⟨second?, .call question⟩ d)) :
    (take ⟨second?, .call question⟩ d).1 = (take ⟨first?, .call question⟩ c).1 := by
  cases halike with
  | ok hc hd hjournal =>
    rw [take_call_of_ok hgives hc, take_call_of_ok hgives hd, hjournal]
  | @error fault c' d' hc hd hjournal =>
    by_cases hrefused : ∃ v, fault = .violation v
    · -- a refused write is reported with the call, which is the same
      obtain ⟨v, rfl⟩ := hrefused
      have hcarried : ∀ e e' : Catalog, command.run e = .error (.violation v) e' →
          Api.carryOut question command e = .ok (.ofFault (.violation v))
            { e' with journal := e'.journal ++
              [.storageFailure question.method (Api.reportedPath question.path) v] } := by
        intro e e' hrun
        unfold Api.carryOut
        rw [hrun]
        rfl
      have hserve : ∀ e e' : Catalog, command.run e = .error (.violation v) e' →
          Api.serve question e = _ := fun e e' hrun =>
        (Api.serve_of_gives hgives e).trans (hcarried e e' hrun)
      rw [take_call_of_serve (hserve _ _ hc), take_call_of_serve (hserve _ _ hd)]
      simp only [hjournal]
    · have hfault : ∀ v, fault ≠ .violation v := fun v hv => hrefused ⟨v, hv⟩
      rw [take_call_of_fault hgives hc hfault, take_call_of_fault hgives hd hfault, hjournal]

end RequestCatalog
