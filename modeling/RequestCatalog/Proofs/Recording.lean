import RequestCatalog.Proofs.Integrity
import RequestCatalog.Proofs.Isolation
import RequestCatalog.Proofs.Sending

/-! # What came back from requests

  Each result of a request names two records: the request, and a workspace of its own. It
  is recorded in the workspace that the request has at the time. No table watches over
  this afterwards, and a call may send the request to another workspace. Then the results
  stay behind, and go when their old workspace is deleted.

  * `Command.Separates` says that a command does this. It is the only way to do it:
    `TimedStep.together_take_iff`.
  * `Catalog.Recorded` are the catalogues that calls and records reach without it. There
    every result belongs to the workspace of its request.
-/

namespace RequestCatalog

open Relation

namespace Store

variable {s t : Store} {k : Kind} {p : Protocol}

/-! ### Results and their requests -/

instance : Decidable s.Together :=
  decidable_of_iff
    ((∀ e ∈ s.rows (.exchange .http),
        s.workspaceOf? ⟨.request .http, e.data.requestId⟩ = some e.data.workspaceId) ∧
      ∀ e ∈ s.rows (.exchange .grpc),
        s.workspaceOf? ⟨.request .grpc, e.data.requestId⟩ = some e.data.workspaceId) <| by
    constructor
    · rintro ⟨hhttp, hgrpc⟩ p
      cases p with
      | http => exact hhttp
      | grpc => exact hgrpc
    · intro h
      exact ⟨h .http, h .grpc⟩

theorem together_empty : empty.Together :=
  fun _ _ h => absurd h not_mem_rows_empty

theorem mem_exchangesOf {id : String} {e : Row (.exchange p)} :
    e ∈ s.exchangesOf p id ↔ e ∈ s.rows (.exchange p) ∧ e.data.requestId = id := by
  unfold exchangesOf
  rw [List.mem_filter, beq_iff_eq]

/-- The request that a result came back from is stored, in the workspace of the result. -/
theorem Together.exists_request (hs : s.Together) {id : String} {e : Row (.exchange p)}
    (he : e ∈ s.exchangesOf p id) :
    ∃ r, s.get? (.request p) id = some r ∧ r.data.workspaceId = e.data.workspaceId := by
  obtain ⟨hmem, rfl⟩ := mem_exchangesOf.mp he
  exact Option.map_eq_some_iff.mp (hs p e hmem)

/-- Nothing came back from a request that is not stored. -/
theorem Together.not_mem_exchangesOf (hs : s.Together) {id : String}
    (hnew : s.holds ⟨.request p, id⟩ = false) (e : Row (.exchange p)) :
    e ∉ s.exchangesOf p id := by
  intro he
  obtain ⟨r, hget, -⟩ := hs.exists_request he
  rw [get?_eq_none_iff.mpr hnew] at hget
  cases hget

/-! ### Changes -/

section put

variable {row : Row k}

theorem workspaceOf?_put_self : (s.put row).workspaceOf? row.key = some row.workspaceId :=
  congrArg (Option.map Row.workspaceId) get?_put_self

theorem workspaceOf?_put_ne {key : Key} (h : key ≠ row.key) :
    (s.put row).workspaceOf? key = s.workspaceOf? key :=
  congrArg (Option.map Row.workspaceId) (get?_put_ne h)

/-- Workspaces and folders have no part in it. -/
theorem Together.put (hs : s.Together) (hrequest : ∀ p, k ≠ .request p)
    (hexchange : ∀ p, k ≠ .exchange p) : (s.put row).Together := by
  intro p e he
  rw [rows_put_ne (hexchange p).symm] at he
  have hother : (⟨.request p, e.data.requestId⟩ : Key) ≠ row.key := fun hkey =>
    hrequest p (congrArg Key.kind hkey).symm
  rw [workspaceOf?_put_ne hother]
  exact hs p e he

/-- A request that is written has to stay with what came back from it. -/
theorem Together.put_request_iff (hs : s.Together) {r : Row (.request p)} :
    (s.put r).Together ↔ ∀ e ∈ s.exchangesOf p r.id, e.data.workspaceId = r.data.workspaceId := by
  constructor
  · intro hput e he
    obtain ⟨hmem, hid⟩ := mem_exchangesOf.mp he
    have hkept : e ∈ (s.put r).rows (.exchange p) := by
      rw [rows_put_ne (by simp)]
      exact hmem
    have hsame := hput p e hkept
    rw [hid] at hsame
    exact Option.some.inj (hsame.symm.trans workspaceOf?_put_self)
  · intro hsame q e he
    rw [rows_put_ne (by simp)] at he
    by_cases hkey : (⟨.request q, e.data.requestId⟩ : Key) = r.key
    · obtain rfl : q = p := Kind.request.inj (congrArg Key.kind hkey)
      have hid : e.data.requestId = r.id := congrArg Key.id hkey
      rw [hkey, workspaceOf?_put_self]
      exact congrArg some (hsame e (mem_exchangesOf.mpr ⟨he, hid⟩)).symm
    · rw [workspaceOf?_put_ne hkey]
      exact hs q e he

/-- A request that was sent has to stay in its workspace, if something came back from it. -/
theorem Together.put_sent_iff (hs : s.Together) {form : Api.Form (.request p)} {id : String}
    {now : Instant} {r : Row (.request p)} (h : s.candidate id form.draft.data now = .ok r) :
    (s.put r).Together ↔ ∀ old, s.get? (.request p) id = some old → s.exchangesOf p id ≠ [] →
      old.data.workspaceId = form.data.workspaceId := by
  have hid : r.id = id := (candidate_cases h).1
  have hworkspace : r.data.workspaceId = form.data.workspaceId :=
    Api.Form.workspaceId_of_candidate h _ rfl
  rw [hs.put_request_iff, hid, hworkspace]
  constructor
  · intro hsame old hget hsome
    obtain ⟨e, he⟩ := List.exists_mem_of_ne_nil _ hsome
    obtain ⟨found, hfound, hbelongs⟩ := hs.exists_request he
    obtain rfl := Option.some.inj (hget.symm.trans hfound)
    exact hbelongs.trans (hsame e he)
  · intro hsame e he
    obtain ⟨old, hget, hbelongs⟩ := hs.exists_request he
    rw [← hbelongs]
    exact hsame old hget (List.ne_nil_of_mem he)

/-- A result that is recorded has to belong to the workspace of its request. -/
theorem Together.put_exchange (hs : s.Together) {e : Row (.exchange p)}
    (he : s.workspaceOf? ⟨.request p, e.data.requestId⟩ = some e.data.workspaceId) :
    (s.put e).Together := by
  intro q x hx
  have hother : (⟨.request q, x.data.requestId⟩ : Key) ≠ e.key := fun hkey =>
    Kind.noConfusion (congrArg Key.kind hkey)
  rw [workspaceOf?_put_ne hother]
  rcases mem_rows_put_cases hx with hmem | heq
  · exact hs q x hmem
  · cases heq
    exact he

end put

/-- A result stays only with its request. -/
theorem Together.delete (hs : s.Together) (key : Key) : (s.delete key).Together := by
  intro p e he
  have hrequest : (⟨.request p, e.data.requestId⟩ : Key) ∉ s.dependents key :=
    ref_not_mem_dependents he (by simp [Row.refs, Columns.refs])
  have hsame := hs p e (mem_rows_delete.mp he).1
  unfold workspaceOf? at hsame ⊢
  rw [get?_delete hrequest]
  exact hsame

theorem Together.deletes (hs : s.Together) (h : ReflTransGen Api.Deletes s t) : t.Together := by
  induction h with
  | refl => exact hs
  | tail _ hone ih =>
    obtain ⟨key, rfl⟩ := hone.exists_eq_delete
    exact ih.delete key

end Store

/-! ### Calls -/

namespace Api

/-- The command sends a stored request to another workspace, although something came back from
    it, and nothing stands against that. -/
def Command.Separates (s : Store) : Command → Prop
  | .writeRequest p form _ =>
    form.Admitted s ∧ form.garbled = [] ∧ (∃ r, s.get? (.request p) form.id = some r ∧
      r.data.workspaceId ≠ form.data.workspaceId) ∧ s.exchangesOf p form.id ≠ []
  | _ => False

/-- A command that does not separate a request from what came back from it leaves them together,
    if the identifiers that it makes are new. -/
theorem Command.together_run {command : Command} {c : Catalog} (hs : c.store.Together)
    (hfresh : c.MakesFresh (command.run.left c)) (hstays : ¬ command.Separates c.store) :
    (command.run.left c).store.Together := by
  cases command.run_left c with
  | deletes h => exact hs.deletes h
  | @writes k form row hform hadmitted hissued hwrite hsound _ =>
    obtain ⟨hcandidate, -, hput⟩ := Store.write_eq_ok_iff.mp hwrite
    rw [hput]
    cases k with
    | workspace | folder => exact hs.put (by simp) (by simp)
    | exchange p => exact absurd hform form?_ne_exchange
    | request p =>
      rw [hs.put_sent_iff hcandidate]
      intro r hget hsome
      rcases Form.idFor_cases_of_fresh hissued hfresh with ⟨hnamed, -⟩ | ⟨-, hnew⟩
      · -- the command is about the stored request
        rw [← hnamed] at hget hsome
        by_contra hother
        apply hstays
        cases command with
        | writeRequest q sent source =>
          cases hform
          exact ⟨hadmitted, hsound, ⟨r, hget, hother⟩, hsome⟩
        | _ => cases hform
      · rw [Store.get?_eq_none_iff.mpr hnew] at hget
        cases hget
  | @copies p r row id source place _ _ _ hissued hwrite =>
    obtain ⟨hcandidate, -, hput⟩ := Store.write_eq_ok_iff.mp hwrite
    have hid : row.id = c.nextId (.request p) := (Store.candidate_cases hcandidate).1
    have hnew : c.store.holds ⟨.request p, c.nextId (.request p)⟩ = false :=
      hfresh _ (by simp [hissued])
    rw [hput]
    exact hs.put_request_iff.mpr fun e he =>
      absurd (hid ▸ he) (hs.not_mem_exchangesOf hnew e)

end Api

section call

variable {c : Catalog} {at? : Option Int} {incoming : Api.Incoming}

/-- The call sends a stored request to another workspace, although something came back from it. -/
def Catalog.Separates (c : Catalog) (incoming : Api.Incoming) : Prop :=
  ∃ command, incoming.Gives command ∧ command.Separates c.store

/-- A call that separates a request from what came back from it is carried out. -/
theorem TimedStep.not_together_of_separates (hc : c.Reached) (hs : c.store.Together)
    (hseparates : c.Separates incoming) :
    ¬ (take ⟨at?, .call incoming⟩ c).2.store.Together := by
  obtain ⟨command, hgives, hcommand⟩ := hseparates
  cases command with
  | writeRequest p form source =>
    obtain ⟨hadmitted, hsound, ⟨r, hget, hother⟩, hsome⟩ := hcommand
    have hid : form.id ≠ "" := by
      rw [← Store.id_of_get? hget]
      exact hc.filled.id_ne (Store.mem_of_get? hget)
    obtain ⟨row, c', hcandidate, htake, hstore⟩ :=
      take_of_admitted hgives rfl hadmitted hsound hid at?
    rw [htake]
    show ¬ c'.store.Together
    rw [hstore, hs.put_sent_iff hcandidate]
    intro hsame
    exact hother (hsame r hget hsome)
  | _ => exact hcommand.elim

/-- What came back from requests stays with them in a call exactly if the call does not separate
    them. -/
theorem TimedStep.together_take_iff (hc : c.Reached) (hs : c.store.Together)
    (hfresh : c.MakesFresh (take ⟨at?, .call incoming⟩ c).2) :
    (take ⟨at?, .call incoming⟩ c).2.store.Together ↔ ¬ c.Separates incoming := by
  constructor
  · exact fun htogether hseparates => not_together_of_separates hc hs hseparates htogether
  · intro hstays
    rcases take_call_cases hfresh with hsame | ⟨command, hgives, hstore, hfresh⟩
    · rw [hsame]
      exact hs
    · rw [hstore]
      apply Api.Command.together_run (c := before ⟨at?, .call incoming⟩ c) hs hfresh
      exact fun hcommand => hstays ⟨command, hgives, hcommand⟩

end call

/-! ### Records -/

section record

variable {c : Catalog} {p : Protocol} {r : Row (.request p)} {d : Draft (.exchange p)}

/-- Recording a result of a stored request, in the workspace of the request. -/
theorem TimedStep.take_record (hrequest : d.data.requestId = .value r.id)
    (hworkspace : d.data.workspaceId = .value r.data.workspaceId) (at? : Option Int)
    (source : String) :
    (take ⟨at?, .upsert (.exchange p) d source⟩ c).2.store = c.store ∨
      ∃ e : Row (.exchange p), e.data.requestId = r.id ∧
        e.data.workspaceId = r.data.workspaceId ∧
        (take ⟨at?, .upsert (.exchange p) d source⟩ c).2.store = c.store.put e := by
  let b := before ⟨at?, .upsert (.exchange p) d source⟩ c
  have hleft : (Step.upsert (.exchange p) d source).run.left b = (Op.upsert d source).left b :=
    Op.left_map _ _ b
  rw [take_snd, hleft]
  rcases (Op.upsert_left d b source).2 with hsame | ⟨-, e, hwrite⟩
  · exact .inl hsame
  · obtain ⟨hcandidate, -, hput⟩ := Store.write_eq_ok_iff.mp hwrite
    obtain ⟨hw, hr⟩ := Store.place_of_candidate_exchange hcandidate hworkspace hrequest
    exact .inr ⟨e, hr, hw, hput⟩

end record

/-! ### Runs -/

namespace Catalog

/-- The catalogues that are reached from an empty store by calls that make new identifiers and
    separate no request from what came back from it, and by recording results of stored requests
    in the workspaces that these have. -/
inductive Recorded : Catalog → Prop where
  | start {c : Catalog} (h : c.store = .empty) : Recorded c
  | call {c : Catalog} (h : Recorded c) (at? : Option Int) (incoming : Api.Incoming)
      (hfresh : c.MakesFresh (TimedStep.take ⟨at?, .call incoming⟩ c).2)
      (hstays : ¬ c.Separates incoming) : Recorded (TimedStep.take ⟨at?, .call incoming⟩ c).2
  | record {c : Catalog} (h : Recorded c) (at? : Option Int) {p : Protocol}
      {r : Row (.request p)} (hr : r ∈ c.store.rows (.request p)) {d : Draft (.exchange p)}
      (hrequest : d.data.requestId = .value r.id)
      (hworkspace : d.data.workspaceId = .value r.data.workspaceId) (source : String) :
      Recorded (TimedStep.take ⟨at?, .upsert (.exchange p) d source⟩ c).2

variable {c : Catalog}

theorem Recorded.reached (h : c.Recorded) : c.Reached := by
  induction h with
  | start h => exact .start h
  | call _ at? incoming _ _ ih => exact ih.step ⟨at?, .call incoming⟩
  | record _ at? _ _ _ source ih => exact ih.step ⟨at?, .upsert _ _ source⟩

/-- What came back from requests belongs to their workspaces. -/
theorem Recorded.together (h : c.Recorded) : c.store.Together := by
  induction h with
  | start h =>
    rw [h]
    exact Store.together_empty
  | call hc at? incoming hfresh hstays ih =>
    exact (TimedStep.together_take_iff hc.reached ih hfresh).mpr hstays
  | @record c hc at? p r hr d hrequest hworkspace source ih =>
    rcases TimedStep.take_record (c := c) hrequest hworkspace at? source with
      hsame | ⟨e, hid, hsame, hput⟩
    · rw [hsame]
      exact ih
    · rw [hput]
      apply ih.put_exchange
      rw [hid, hsame]
      exact congrArg (Option.map Row.workspaceId) (hc.reached.intact.distinct.get?_of_mem hr)

/-- Folders and requests stand in a tree: results have no part in it. -/
theorem Recorded.contained (h : c.Recorded) : c.store.Contained := by
  induction h with
  | start h =>
    rw [h]
    exact Store.contained_empty
  | @call c _ at? incoming hfresh _ ih =>
    have hall : ∀ t, ReflTransGen Store.Commit c.store t → t.Contained := by
      intro t ht
      induction ht with
      | refl => exact ih
      | tail _ hone hprev => exact hprev.commit hone
    exact hall _ (TimedStep.commits_call hfresh)
  | @record c _ at? p r hr d hrequest hworkspace source ih =>
    rcases TimedStep.take_record (c := c) hrequest hworkspace at? source with
      hsame | ⟨e, -, -, hput⟩
    · rw [hsame]
      exact ih
    · rw [hput]
      exact ih.put (by simp) fun q x hx => by cases hx

theorem Recorded.coherent (h : c.Recorded) : c.store.Coherent :=
  ⟨h.contained, h.reached.intact.distinct, h.together⟩

/-- The steps are calls and records, every identifier that a call makes for a new record is new,
    every record is made in the workspace of its request, and results stay with their requests. -/
def recordedSteps (c : Catalog) : List TimedStep → Bool
  | [] => true
  | t :: rest =>
    let taken := (t.take c).2
    let allowed := match t.step with
      | .call _ => decide (c.MakesFresh taken) && decide taken.store.Together
      | .upsert (.exchange p) d _ => (c.store.rows (.request p)).any fun r =>
        decide (d.data.requestId = .value r.id) &&
          decide (d.data.workspaceId = .value r.data.workspaceId)
      | _ => false
    allowed && recordedSteps taken rest

/-- A run of such steps stays among the catalogues that they reach. -/
theorem Recorded.runFrom {steps : List TimedStep} (h : c.Recorded)
    (hsteps : c.recordedSteps steps = true) : (runFrom c steps).2.Recorded := by
  induction steps generalizing c with
  | nil => exact h
  | cons t rest ih =>
    obtain ⟨at?, step⟩ := t
    obtain ⟨hallowed, hrest⟩ := Bool.and_eq_true_iff.mp hsteps
    refine ih ?_ hrest
    split at hallowed
    · next incoming hstep =>
      obtain rfl : step = .call incoming := hstep
      obtain ⟨hfresh, htogether⟩ := Bool.and_eq_true_iff.mp hallowed
      have hfresh := of_decide_eq_true hfresh
      have hstays :=
        (TimedStep.together_take_iff h.reached h.together hfresh).mp (of_decide_eq_true htogether)
      exact h.call at? incoming hfresh hstays
    · next p d source hstep =>
      obtain rfl : step = .upsert (.exchange p) d source := hstep
      obtain ⟨r, hr, hgiven⟩ := List.any_eq_true.mp hallowed
      obtain ⟨hrequest, hworkspace⟩ := Bool.and_eq_true_iff.mp hgiven
      exact h.record at? hr (of_decide_eq_true hrequest) (of_decide_eq_true hworkspace) source
    · cases hallowed

/-- Wherever calls and records get, as long as no call separates a request from what came back
    from it:

    * Every result belongs to the workspace of its request, which is stored.
    * A call that deletes a workspace keeps what came back from the requests of the others. What
      came back from the requests that live in it is removed, unless the workspace is too deep and
      so stays itself.
    * A further call leaves every result in the workspace of its request exactly if it separates
      none from it either. -/
theorem Recorded.results_stay (hc : c.Recorded) :
    (∀ p, ∀ e ∈ c.store.rows (.exchange p), ∃ r,
      c.store.get? (.request p) e.data.requestId = some r ∧
        r.data.workspaceId = e.data.workspaceId) ∧
    (∀ (incoming : Api.Incoming) (w : String) (source : Source) (at? : Option Int),
      incoming.Gives (.delete .workspace w source) →
      ∀ p, ∀ r ∈ c.store.rows (.request p), ∀ e ∈ c.store.exchangesOf p r.id,
        e ∈ (TimedStep.take ⟨at?, .call incoming⟩ c).2.store.rows (.exchange p) ↔
          r.data.workspaceId ≠ w ∨ c.store.TooDeep ⟨.workspace, w⟩) ∧
    ∀ (incoming : Api.Incoming) (at? : Option Int),
      c.MakesFresh (TimedStep.take ⟨at?, .call incoming⟩ c).2 →
      ((TimedStep.take ⟨at?, .call incoming⟩ c).2.store.Together ↔ ¬ c.Separates incoming) := by
  refine ⟨fun p e he => ?_, fun incoming w source at? hdeletes p r hr e he => ?_, ?_⟩
  · exact hc.together.exists_request (Store.mem_exchangesOf.mpr ⟨he, rfl⟩)
  · -- the deletion goes by the workspace of the result, which is that of the request
    obtain ⟨found, hget, hsame⟩ := hc.together.exists_request he
    have hstored := hc.reached.intact.distinct.get?_of_mem hr
    obtain rfl := Option.some.inj (hstored.symm.trans hget)
    have hmem := (Store.mem_exchangesOf.mp he).1
    by_cases hdeep : c.store.TooDeep ⟨.workspace, w⟩
    · rw [store_of_delete_workspace_of_tooDeep hc.coherent.distinct hdeletes hdeep at?]
      exact iff_of_true hmem (.inr hdeep)
    · rw [rows_of_delete_workspace hc.coherent hdeletes hdeep at?, List.mem_filter,
        bne_iff_ne, hsame]
      exact (and_iff_right hmem).trans (or_iff_left hdeep).symm
  · exact fun incoming at? hfresh =>
      TimedStep.together_take_iff hc.reached hc.together hfresh

/-- Two workspaces, a request in the first one, and what came back from it. Then the request is
    written again. -/
def recording : List TimedStep :=
  [.post "/api/workspaces" [("id", .text "a"), ("name", .text "a")],
   .post "/api/workspaces" [("id", .text "b"), ("name", .text "b")],
   .post "/api/http-requests" [("id", .text "r"), ("workspace_id", .text "a")],
   ⟨none, .upsert (.exchange .http)
     { id := .value "e"
       data := { workspaceId := .value "a", requestId := .value "r", detail := {} } }
     "window"⟩,
   .post "/api/http-requests" [("id", .text "r"), ("workspace_id", .text "a"),
      ("name", .text "renamed")]]

/-- The catalogue after the run. -/
def recorded : Catalog := (runFrom {} recording).2

theorem recorded_recorded : recorded.Recorded :=
  .runFrom (.start rfl) (by decide +kernel)

/-- What came back from the request of the first workspace stays when the second one is
    deleted. -/
theorem recorded_results_stay :
    let deleting : TimedStep := ⟨none, .call (bare "DELETE" "/api/workspaces/b")⟩
    (deleting.take recorded).1.status? = some 204 ∧
      ∃ e ∈ recorded.store.rows (.exchange .http), e.id = "e" ∧
        e ∈ (deleting.take recorded).2.store.rows (.exchange .http) := by
  intro deleting
  have hdeletes : (bare "DELETE" "/api/workspaces/b").Gives (.delete .workspace "b" .window) :=
    ⟨.record .workspace "b", by decide +kernel, rfl⟩
  obtain ⟨e, he, hid⟩ : ∃ e ∈ recorded.store.rows (.exchange .http), e.id = "e" :=
    Store.holds_iff.mp (by decide +kernel)
  have hworkspace : e.data.workspaceId = "a" := by
    have hall : ∀ e ∈ recorded.store.rows (.exchange .http), e.data.workspaceId = "a" := by
      decide +kernel
    exact hall e he
  obtain ⟨htogether, hdeletion, -⟩ := recorded_recorded.results_stay
  obtain ⟨r, hget, hsame⟩ := htogether .http e he
  have hresult : e ∈ recorded.store.exchangesOf .http r.id := by
    rw [Store.id_of_get? hget]
    exact Store.mem_exchangesOf.mpr ⟨he, rfl⟩
  have hother : r.data.workspaceId ≠ "b" := by
    rw [hsame, hworkspace]
    decide
  refine ⟨by decide +kernel, e, he, hid, ?_⟩
  exact (hdeletion _ "b" .window none hdeletes .http r (Store.mem_of_get? hget) e hresult).mpr
    (.inl hother)

/-- After the run, a call sends the request to the second workspace. What came back from it stays
    behind in the first one, and is gone when that is deleted, although the request is not. -/
theorem moved_request_leaves_result :
    let moving := TimedStep.post "/api/http-requests"
      [("id", .text "r"), ("workspace_id", .text "b")]
    let deleting : TimedStep := ⟨none, .call (bare "DELETE" "/api/workspaces/a")⟩
    let moved := (moving.take recorded).2
    let after := (deleting.take moved).2
    recorded.Recorded ∧ recorded.MakesFresh moved ∧ moved.MakesFresh after ∧
      (moving.take recorded).1.status? = some 200 ∧
      (moved.store.rows (.request .http)).map (fun r => (r.id, r.data.workspaceId)) =
        [("r", "b")] ∧
      (moved.store.rows (.exchange .http)).map
        (fun e => (e.id, e.data.requestId, e.data.workspaceId)) = [("e", "r", "a")] ∧
      (deleting.take moved).1.status? = some 204 ∧
      (after.store.rows (.request .http)).map Row.id = ["r"] ∧
      (after.store.rows (.exchange .http)).map Row.id = [] := by
  refine ⟨recorded_recorded, ?_⟩
  decide +kernel

end Catalog

end RequestCatalog
