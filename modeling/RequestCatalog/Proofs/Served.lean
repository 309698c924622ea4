import RequestCatalog.Proofs.Reached

/-! # What calls reach

  Calls from outside can do less than sessions. They write only records that were
  sent and admitted, and copies of stored requests (`Store.Commit`), as long as the
  identifiers that are made for new records are really new.
-/

namespace RequestCatalog

open Relation

/-! ### Copies -/

namespace Op

variable {p : Protocol} (r : Row (.request p)) (place : Float)

theorem copyAt_workspaceId :
    (copyAt r.draft place).data.workspaceId = .value r.data.workspaceId := by
  cases p <;> rfl

theorem copyAt_folderId :
    (copyAt r.draft place).data.folderId = .ofOption r.data.folderId := by
  cases p <;> exact Given.laidOver_ofOption _ _

theorem copyAt_call : (copyAt r.draft place).data.call = Call.sketch r.data.call :=
  Call.Sketch.laidOver_sketch (p := p) r.data.call (Columns.blank (.request p)).call

end Op

/-! ### Changes by calls -/

/-- One change of the store by a call. -/
inductive Store.Commit (s : Store) : Store → Prop where
  /-- A record that was sent and admitted is written, under the identifier that it names or
      else under one that the table does not hold. -/
  | write {k : Kind} {form : Api.Form k} {id : String} {now : Instant} {row : Row k} {t : Store}
      (hsent : form.Sent) (hadmitted : form.Admitted s)
      (hid : form.id = id ∧ id ≠ "" ∨ form.id = "" ∧ s.holds ⟨k, id⟩ = false)
      (hwrite : s.write id form.draft.data now = .ok (row, t)) (hgarbled : form.garbled = [])
      (hfits : form.draft.data.Fits) : Commit s t
  /-- The copy of a stored request is written under an identifier that the table does not
      hold. -/
  | copy {p : Protocol} {r row : Row (.request p)} {id : String} {place : Float} {now : Instant}
      {t : Store} (hr : r ∈ s.rows (.request p)) (hnew : s.holds ⟨.request p, id⟩ = false)
      (hwrite : s.write id (Op.copyAt r.draft place).data now = .ok (row, t))
      (hwritable : r.draft.data.obstacle? = none) : Commit s t
  /-- A record is deleted with all that depends on it. -/
  | delete (key : Key) : Commit s (s.delete key)

theorem Store.Commit.change {s t : Store} (h : s.Commit t) : s.Change t := by
  cases h with
  | write _ _ _ hwrite _ hfits => exact .write hwrite hfits.writable
  | copy _ _ hwrite hwritable => exact .write hwrite (Op.fits_copyAt hwritable).writable
  | delete key => exact .delete key

/-- No identifier that was made on the way to the later catalogue was in use before. -/
def Catalog.MakesFresh (c later : Catalog) : Prop :=
  ∀ key ∈ later.issued.drop c.issued.length, c.store.holds key = false

instance (c later : Catalog) : Decidable (c.MakesFresh later) :=
  inferInstanceAs (Decidable (∀ key ∈ _, _))

namespace Api

theorem Form.named?_draft {k : Kind} (form : Form k) :
    form.draft.named? = if form.id.isEmpty then none else some form.id := by
  unfold Draft.named? Form.draft
  cases h : form.id.isEmpty <;> simp [Given.toOption, Option.filter, h]

/-- A form is written under the identifier that it names, or else under a new one. -/
theorem Form.idFor_cases {k : Kind} (form : Form k) {c : Catalog}
    (hnew : form.id = "" → c.store.holds ⟨k, c.nextId k⟩ = false) :
    form.id = c.idFor form.draft ∧ c.idFor form.draft ≠ "" ∨
      form.id = "" ∧ c.store.holds ⟨k, c.idFor form.draft⟩ = false := by
  by_cases hempty : form.id = ""
  · right
    have hid : c.idFor form.draft = c.nextId k := by
      simp [Catalog.idFor, form.named?_draft, hempty]
    rw [hid]
    exact ⟨hempty, hnew hempty⟩
  · left
    have hid : c.idFor form.draft = form.id := by
      simp [Catalog.idFor, form.named?_draft, hempty]
    rw [hid]
    exact ⟨rfl, hempty⟩

/-- A form is written under the identifier that it names, or else under one that was made for it
    and is new. -/
theorem Form.idFor_cases_of_fresh {k : Kind} {form : Form k} {c later : Catalog}
    (hissued : later.issued = c.issuedFor form.draft) (hfresh : c.MakesFresh later) :
    form.id = c.idFor form.draft ∧ c.idFor form.draft ≠ "" ∨
      form.id = "" ∧ c.store.holds ⟨k, c.idFor form.draft⟩ = false := by
  apply form.idFor_cases
  intro hempty
  apply hfresh
  simp [hissued, Catalog.issuedFor, form.named?_draft, hempty]

/-- What a checked command does to the store if the identifiers it makes are new. -/
theorem Command.commits {command : Command} (hsound : command.Sound) {c : Catalog}
    (hfresh : c.MakesFresh (command.run.left c)) :
    ReflTransGen Store.Commit c.store (command.run.left c).store := by
  cases command.run_left c with
  | deletes h =>
    refine ReflTransGen.mono (fun s t hdelete => ?_) _ _ h
    obtain ⟨key, rfl⟩ := hdelete.exists_eq_delete
    exact .delete key
  | @writes k form row hform hadmitted hissued hwrite hgarbled hfits =>
    have hid := Form.idFor_cases_of_fresh hissued hfresh
    exact .single (.write (hsound k form hform) hadmitted hid hwrite hgarbled hfits)
  | @copies p r row id source place _ hget _ hissued hwrite hwritable =>
    have hnew : c.store.holds ⟨.request p, c.nextId (.request p)⟩ = false :=
      hfresh _ (by simp [hissued])
    exact .single (.copy (Store.mem_of_get? hget) hnew hwrite hwritable)

end Api

/-- A call leaves the store as it was, or as its command leaves it. If the identifiers that the
    call makes are new, so are those of the command. -/
theorem TimedStep.take_call_cases {at? : Option Int} {incoming : Api.Incoming} {c : Catalog}
    (hfresh : c.MakesFresh (take ⟨at?, .call incoming⟩ c).2) :
    (take ⟨at?, .call incoming⟩ c).2.store = c.store ∨
      ∃ command : Api.Command, incoming.Gives command ∧
        (take ⟨at?, .call incoming⟩ c).2.store =
          (command.run.left (before ⟨at?, .call incoming⟩ c)).store ∧
        c.MakesFresh (command.run.left (before ⟨at?, .call incoming⟩ c)) := by
  rw [take_snd, Step.call_left] at hfresh ⊢
  rcases Api.serve_left incoming (before ⟨at?, .call incoming⟩ c) with
    hsame | ⟨command, hgives, hstore, hissued⟩
  · exact .inl hsame
  · refine .inr ⟨command, hgives, hstore, ?_⟩
    unfold Catalog.MakesFresh at hfresh ⊢
    rwa [← hissued]

theorem TimedStep.commits_call {at? : Option Int} {incoming : Api.Incoming} {c : Catalog}
    (hfresh : c.MakesFresh (take ⟨at?, .call incoming⟩ c).2) :
    ReflTransGen Store.Commit c.store (take ⟨at?, .call incoming⟩ c).2.store := by
  rcases take_call_cases hfresh with hsame | ⟨command, hgives, hstore, hfresh⟩
  · rw [hsame]
  · rw [hstore]
    exact command.commits (c := before ⟨at?, .call incoming⟩ c) hgives.sound hfresh

/-! ### Runs of calls -/

/-- The catalogues that calls reach from an empty store while all identifiers made for new
    records are new. -/
inductive Catalog.Served : Catalog → Prop where
  | start {c : Catalog} (h : c.store = .empty) : Served c
  | call {c : Catalog} (h : Served c) (at? : Option Int) (incoming : Api.Incoming)
      (hfresh : c.MakesFresh (TimedStep.take ⟨at?, .call incoming⟩ c).2) :
      Served (TimedStep.take ⟨at?, .call incoming⟩ c).2

namespace Catalog

variable {c : Catalog}

theorem Served.reached (h : c.Served) : c.Reached := by
  induction h with
  | start h => exact .start h
  | call _ at? incoming _ ih => exact ih.step ⟨at?, .call incoming⟩

/-- What holds of the empty store and is kept by every change that calls make, holds wherever
    calls get. -/
theorem Served.store_induction {P : Store → Prop} (hempty : P .empty)
    (hcommit : ∀ s t, s.Intact → P s → s.Commit t → P t) (h : c.Served) : P c.store := by
  induction h with
  | start h =>
    rw [h]
    exact hempty
  | @call c hserved at? incoming hfresh ih =>
    -- the store stays intact between the deletions of one call as well
    have hboth : ∀ t, ReflTransGen Store.Commit c.store t → t.Intact ∧ P t := by
      intro t ht
      induction ht with
      | refl => exact ⟨hserved.reached.intact, ih⟩
      | tail _ hone hprev =>
        exact ⟨hprev.1.change hone.change, hcommit _ _ hprev.1 hprev.2 hone⟩
    exact (hboth _ (TimedStep.commits_call hfresh)).2

/-- The steps are calls, and every identifier that they make for a new record is new. -/
def freshCalls (c : Catalog) : List TimedStep → Bool
  | [] => true
  | t :: rest =>
    match t.step with
    | .call _ => decide (c.MakesFresh (t.take c).2) && freshCalls (t.take c).2 rest
    | _ => false

/-- A run of calls stays among the catalogues that calls reach. -/
theorem Served.runFrom {steps : List TimedStep} (h : c.Served)
    (hsteps : c.freshCalls steps = true) : (runFrom c steps).2.Served := by
  induction steps generalizing c with
  | nil => exact h
  | cons t rest ih =>
    obtain ⟨at?, step⟩ := t
    cases step with
    | call incoming =>
      unfold freshCalls at hsteps
      obtain ⟨hfresh, hrest⟩ := Bool.and_eq_true_iff.mp hsteps
      exact ih (h.call at? incoming (of_decide_eq_true hfresh)) hrest
    | _ => cases hsteps

end Catalog

/-! ### A run -/

/-- A call that sends a record. -/
def TimedStep.post (path : String) (members : List (Text × Json)) : TimedStep where
  at? := none
  step := .call
    { method := "POST", path, query := [], headers := [], payload := .json (.object members) }

/-- A run of calls: a workspace, a folder inside a folder, and a request at the bottom. The
    request is copied, and the outer folder is moved into a third one. -/
def tour : List TimedStep :=
  let entry (name : String) : Json := .list [.object [("name", .text name)]]
  [.post "/api/workspaces" [("id", .text "w"), ("name", .text "shop"), ("headers", entry "a")],
   .post "/api/folders" [("id", .text "outer"), ("workspace_id", .text "w"), ("name", .text "o"),
      ("authentication_type", .text "basic"), ("headers", entry "b")],
   .post "/api/folders" [("id", .text "inner"), ("workspace_id", .text "w"), ("name", .text "i"),
      ("folder_id", .text "outer"), ("headers", entry "c")],
   .post "/api/http-requests" [("id", .text "r"), ("workspace_id", .text "w"),
      ("folder_id", .text "inner"), ("headers", entry "d")],
   .post "/api/http-requests/r/duplicate" [],
   .post "/api/folders" [("id", .text "top"), ("workspace_id", .text "w"), ("name", .text "t")],
   .post "/api/folders" [("id", .text "outer"), ("workspace_id", .text "w"), ("name", .text "o"),
      ("folder_id", .text "top"), ("authentication_type", .text "basic"), ("headers", entry "b")]]

/-- The catalogue after the run. -/
def Catalog.toured : Catalog := (runFrom {} tour).2

theorem Catalog.toured_served : Catalog.toured.Served :=
  .runFrom (.start rfl) (by decide +kernel)

end RequestCatalog
