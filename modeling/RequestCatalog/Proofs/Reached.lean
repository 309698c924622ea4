import RequestCatalog.Session
import RequestCatalog.Proofs.Answering
import RequestCatalog.Proofs.Cascade
import RequestCatalog.Proofs.Writing

/-! # What sessions reach

  Whatever a session does, its store changes in two ways only: a draft is written,
  or a record is deleted with all that depends on it (`Store.Change`). One step either
  writes a single draft or deletes some records, and never does both (`Store.Turn`).
  An invariant of the store is proved for these changes and then holds in every
  catalogue that a session reaches.

  `Store.Intact` is what the tables themselves watch over: identifiers are unique,
  references name records, and priorities have the form in which they are kept.
-/

namespace RequestCatalog

open Relation

/-! ### Changes -/

/-- One change of the store. -/
inductive Store.Change (s : Store) : Store → Prop where
  /-- A draft is written. -/
  | write {k : Kind} {id : String} {d : Sketch k} {now : Instant} {row : Row k} {t : Store}
      (h : s.write id d now = .ok (row, t)) (hwritable : d.obstacle? = none) : Change s t
  /-- A record is deleted with all that depends on it. -/
  | delete (key : Key) : Change s (s.delete key)

/-- What one step makes of the store. -/
inductive Store.Turn (s : Store) : Store → Prop where
  /-- Nothing but deletions, perhaps none. -/
  | deletes {t : Store} (h : ReflTransGen Api.Deletes s t) : Turn s t
  /-- A single draft is written, under an identifier that is not empty. -/
  | writes {k : Kind} {id : String} {d : Sketch k} {now : Instant} {row : Row k} {t : Store}
      (hid : id ≠ "") (h : s.write id d now = .ok (row, t)) (hwritable : d.obstacle? = none) :
      Turn s t

theorem Store.Turn.changes {s t : Store} (h : s.Turn t) : ReflTransGen Store.Change s t := by
  cases h with
  | deletes h =>
    refine ReflTransGen.mono (fun s t hdelete => ?_) _ _ h
    obtain ⟨key, rfl⟩ := hdelete.exists_eq_delete
    exact .delete key
  | writes _ h hwritable => exact .single (.write h hwritable)

/-! ### Operations as turns -/

namespace Op

variable {α β : Type}

/-- The operation makes one turn of every store. -/
def Turns (op : Op α) : Prop :=
  ∀ c : Catalog, c.store.Turn (op.left c).store

/-- The operation leaves every store as it was. -/
abbrev Quiet (op : Op α) : Prop := op.Moves fun _ _ => False

theorem Quiet.store_eq {op : Op α} (h : op.Quiet) (c : Catalog) :
    (op.left c).store = c.store := by
  rcases (h c).cases_tail with hsame | ⟨_, -, hnone⟩
  · exact hsame
  · exact hnone.elim

theorem turns_of_moves {op : Op α} (h : op.Moves Api.Deletes) : op.Turns :=
  fun c => .deletes (h c)

theorem turns_of_quiet {op : Op α} (h : op.Quiet) : op.Turns := by
  intro c
  rw [h.store_eq c]
  exact .deletes .refl

/-- What is asked before makes no turn of its own. -/
theorem Turns.after {op : Op α} {f : α → Op β} (hop : op.Quiet) (hf : ∀ a, (f a).Turns) :
    (op >>= f).Turns := by
  intro c
  have hsame := hop.store_eq c
  unfold left at hsame ⊢
  rw [run_bind]
  cases hrun : op c with
  | ok a c' =>
    rw [hrun] at hsame
    simp only at hsame ⊢
    rw [← hsame]
    exact hf a c'
  | error e c' =>
    rw [hrun] at hsame
    simp only at hsame ⊢
    rw [hsame]
    exact .deletes .refl

/-- What is made of the result at the end makes none either. -/
theorem Turns.map {op : Op α} (h : op.Turns) (f : α → β) :
    (op >>= fun a => (pure (f a) : Op β)).Turns := by
  intro c
  rw [left_map]
  exact h c

theorem turns_upsert {k : Kind} (d : Draft k) (source : String) : (upsert d source).Turns := by
  intro c
  rcases (upsert_left d c source).2 with hsame | ⟨hfits, row, hwrite⟩
  · rw [hsame]
    exact .deletes .refl
  · exact .writes (c.idFor_ne d) hwrite hfits.writable

theorem turns_save {k : Kind} (d : Draft k) (garbled : List (String × Text)) (source : String) :
    (save d garbled source).Turns := by
  intro c
  rcases save_left d c garbled source with hsame | ⟨-, hupsert⟩
  · rw [hsame]
    exact .deletes .refl
  · rw [hupsert]
    exact turns_upsert d source c

theorem turns_duplicate {p : Protocol} (d : Draft (.request p)) (source : String) :
    (duplicate d source).Turns := by
  intro c
  rcases duplicate_left d c source with hsame | ⟨-, hwritable, priority, row, -, hwrite⟩
  · rw [hsame]
    exact .deletes .refl
  · exact .writes (c.nextId_ne _) hwrite ((fits_copyAt hwritable).writable)

end Op

theorem Api.turns_serve (call : Incoming) : (serve call).Turns := by
  intro c
  rcases serve_left call c with hsame | ⟨command, -, hstore, -⟩
  · rw [hsame]
    exact .deletes .refl
  · rw [hstore]
    cases command.run_left c with
    | deletes h => exact .deletes h
    | writes _ _ _ hwrite _ hfits => exact .writes (c.idFor_ne _) hwrite hfits.writable
    | copies _ _ _ _ hwrite hwritable =>
      exact .writes (c.nextId_ne _) hwrite (Op.fits_copyAt hwritable).writable

/-- A step deletes records or writes one draft, and never both. -/
theorem Step.turns_run (step : Step) : step.run.Turns := by
  have hdelete : ∀ s t key, s.erase key = .ok t → Api.Deletes s t := fun s t key h => ⟨key, h⟩
  cases step with
  -- the steps that write
  | upsert k d source => exact (Op.turns_upsert d source).map _
  | save k d garbled source => exact (Op.turns_save d garbled source).map _
  | upsertRequest p subject source =>
    exact .after (Op.moves_draftOf subject) fun d => (Op.turns_upsert d source).map _
  | duplicate p subject source =>
    exact .after (Op.moves_draftOf subject) fun d => (Op.turns_duplicate d source).map _
  | call incoming => exact (Api.turns_serve incoming).map _
  -- the steps that delete
  | delete k id source =>
    exact .after (Op.moves_fetch k id) fun row =>
      (Op.turns_of_moves (Op.moves_delete hdelete row source)).map _
  | deleteRequest p id source =>
    exact .after (Op.moves_fetch _ id) fun row =>
      (Op.turns_of_moves (Op.moves_deleteRequest hdelete row source)).map _
  | deleteExchanges p id source =>
    exact (Op.turns_of_moves (Op.moves_deleteExchanges hdelete p id source)).map _
  -- the steps that ask
  | findOne | findMany | listContents =>
    exact (Op.turns_of_quiet (Op.moves_consult _)).map _
  | getRequest p id => exact (Op.turns_of_quiet (Op.moves_fetch _ id)).map _
  | wouldLoop | listRequests => exact (Op.turns_of_quiet (Op.moves_ask _)).map _
  | clone k subject =>
    exact .after (Op.moves_draftOf subject) fun d => (Op.turns_of_quiet (Op.moves_copy d)).map _
  | folderChain subject | folderAuthentication subject | folderEntries subject
  | requestAuthentication _ subject | requestEntries _ subject =>
    exact .after (Op.moves_nodeOf subject) fun _ =>
      (Op.turns_of_quiet (Op.moves_askUpwards _)).map _
  | workspaceAuthentication subject | workspaceEntries subject =>
    exact .after (Op.moves_nodeOf subject) fun _ => (Op.turns_of_quiet (Op.moves_consult _)).map _
  | dump => exact (Op.turns_of_quiet Op.moves_get).map _
  | refused fault => exact Op.turns_of_quiet (Op.moves_throw fault)

/-- A call leaves what its answer leaves. -/
theorem Step.call_left (incoming : Api.Incoming) (c : Catalog) :
    (Step.call incoming).run.left c = (Api.serve incoming).left c :=
  Op.left_map _ _ c

/-! ### Sessions -/

/-- The catalogues that sessions reach from an empty store. -/
inductive Catalog.Reached : Catalog → Prop where
  | start {c : Catalog} (h : c.store = .empty) : Reached c
  | step {c : Catalog} (h : Reached c) (t : TimedStep) : Reached (t.take c).2

/-- The catalogue at the time of a step, before it is taken. -/
def TimedStep.before (t : TimedStep) (c : Catalog) : Catalog :=
  { c with now := ⟨t.at?.getD (c.now.seconds + 1)⟩, journal := [] }

theorem TimedStep.take_of_ok (t : TimedStep) {c c' : Catalog} {outcome : Outcome}
    (h : t.step.run (t.before c) = .ok outcome c') :
    t.take c = (⟨.ok outcome, c'.journal⟩, c') := by
  unfold TimedStep.take
  unfold TimedStep.before at h
  simp only [h]

theorem TimedStep.take_of_error (t : TimedStep) {c c' : Catalog} {fault : Fault}
    (h : t.step.run (t.before c) = .error fault c') :
    t.take c = (⟨.error fault, c'.journal⟩, c') := by
  unfold TimedStep.take
  unfold TimedStep.before at h
  simp only [h]

theorem TimedStep.take_snd (t : TimedStep) (c : Catalog) :
    (t.take c).2 = t.step.run.left (t.before c) := by
  cases hrun : t.step.run (t.before c) with
  | ok outcome c' => rw [t.take_of_ok hrun, Op.left_of_ok hrun]
  | error fault c' => rw [t.take_of_error hrun, Op.left_of_error hrun]

/-- A call for a command that succeeds is answered with the reply of the command. -/
theorem TimedStep.take_call_of_ok {at? : Option Int} {incoming : Api.Incoming}
    {command : Api.Command} (hgives : incoming.Gives command) {c c' : Catalog} {reply : Api.Reply}
    (h : command.run (before ⟨at?, .call incoming⟩ c) = .ok reply c') :
    take ⟨at?, .call incoming⟩ c = (⟨.ok (.reply reply), c'.journal⟩, c') := by
  apply take_of_ok
  refine Op.run_bind_of_ok ?_ _
  rw [Api.serve_of_gives hgives]
  exact Api.carryOut_of_ok h

/-- A call for a command that fails is answered with the reply to the fault. -/
theorem TimedStep.take_call_of_fault {at? : Option Int} {incoming : Api.Incoming}
    {command : Api.Command} (hgives : incoming.Gives command) {c c' : Catalog} {fault : Fault}
    (h : command.run (before ⟨at?, .call incoming⟩ c) = .error fault c')
    (hfault : ∀ v, fault ≠ .violation v) :
    take ⟨at?, .call incoming⟩ c = (⟨.ok (.reply (.ofFault fault)), c'.journal⟩, c') := by
  apply take_of_ok
  refine Op.run_bind_of_ok ?_ _
  rw [Api.serve_of_gives hgives]
  exact Api.carryOut_of_fault h hfault

/-- A call for a command that the tables refuse is answered with that, and reported. -/
theorem TimedStep.take_call_of_violation {at? : Option Int} {incoming : Api.Incoming}
    {command : Api.Command} (hgives : incoming.Gives command) {c c' : Catalog} {v : Violation}
    (h : command.run (before ⟨at?, .call incoming⟩ c) = .error (.violation v) c') :
    ∃ left, take ⟨at?, .call incoming⟩ c = (⟨.ok (.reply .notStored), left.journal⟩, left) ∧
      left.store = c'.store ∧ left.issued = c'.issued := by
  let left : Catalog := { c' with
    journal := c'.journal ++ [.storageFailure incoming.method (Api.reportedPath incoming.path) v] }
  have hcarried : Api.carryOut incoming command (before ⟨at?, .call incoming⟩ c) =
      .ok .notStored left := by
    unfold Api.carryOut
    rw [h]
    rfl
  refine ⟨left, take_of_ok _ (Op.run_bind_of_ok ?_ _), rfl, rfl⟩
  rw [Api.serve_of_gives hgives, hcarried]

/-- The status of the reply, if the answer is one. -/
def Answer.status? (a : Answer) : Option Nat :=
  match a.outcome with
  | .ok (.reply r) => some r.status
  | _ => none

/-- A step makes one turn of the store. -/
theorem TimedStep.turn (t : TimedStep) (c : Catalog) : c.store.Turn (t.take c).2.store := by
  rw [t.take_snd]
  exact t.step.turns_run (t.before c)

/-- What holds of the empty store and is kept by every turn holds wherever sessions get. -/
theorem Catalog.Reached.turn_induction {P : Store → Prop} (hempty : P .empty)
    (hturn : ∀ s t, P s → s.Turn t → P t) {c : Catalog} (h : c.Reached) : P c.store := by
  induction h with
  | start h =>
    rw [h]
    exact hempty
  | @step c _ t ih => exact hturn _ _ ih (t.turn c)

/-- What holds of the empty store and is kept by every change holds wherever sessions get. -/
theorem Catalog.Reached.store_induction {P : Store → Prop} (hempty : P .empty)
    (hchange : ∀ s t, P s → s.Change t → P t) {c : Catalog} (h : c.Reached) : P c.store := by
  refine h.turn_induction hempty fun s t hs hturn => ?_
  -- one step of the session may make several changes of the store
  have hchanges := hturn.changes
  clear hturn
  induction hchanges with
  | refl => exact hs
  | tail _ hone hP => exact hchange _ _ hP hone

/-- A run goes on among the catalogues that sessions reach. -/
theorem Catalog.Reached.runFrom {c : Catalog} (h : c.Reached) (steps : List TimedStep) :
    (runFrom c steps).2.Reached := by
  induction steps generalizing c with
  | nil => exact h
  | cons t rest ih => exact ih (h.step t)

/-! ### What the tables watch over -/

/-- Identifiers are unique, every reference names a record, and the priorities of requests
    are kept ones. -/
structure Store.Intact (s : Store) : Prop where
  distinct : s.Distinct
  holds_ref : ∀ {k : Kind} {row : Row k}, row ∈ s.rows k → ∀ ref ∈ row.refs, s.holds ref = true
  isKept : ∀ {p : Protocol} {r : Row (.request p)}, r ∈ s.rows (.request p) →
    Priority.IsKept r.data.sortPriority

namespace Store

theorem intact_empty : empty.Intact where
  distinct k := by rw [rows_empty]; exact List.nodup_nil
  holds_ref h := absurd h not_mem_rows_empty
  isKept h := absurd h not_mem_rows_empty

theorem Intact.write {s t : Store} {k : Kind} {id : String} {d : Sketch k} {now : Instant}
    {row : Row k} (hs : s.Intact) (h : s.write id d now = .ok (row, t)) : t.Intact := by
  obtain ⟨hcandidate, hrefs, rfl⟩ := write_eq_ok_iff.mp h
  refine ⟨hs.distinct.put, ?_, ?_⟩
  · intro l x hx ref href
    rcases mem_rows_put_cases hx with hmem | heq
    · exact holds_put.mpr (.inr (hs.holds_ref hmem ref href))
    · cases heq
      exact holds_of_resolvesRefs hrefs href
  · intro p r hr
    rcases mem_rows_put_cases hr with hmem | heq
    · exact hs.isKept hmem
    -- the priority of the new record has been through `keptPriority`
    · cases heq
      obtain ⟨completed, hcolumns⟩ := columns?_of_candidate hcandidate
      exact Sketch.isKept_of_columns? hcolumns _ rfl

theorem Intact.delete {s : Store} (hs : s.Intact) (key : Key) : (s.delete key).Intact where
  distinct := hs.distinct.keep
  holds_ref {k row} hrow ref href := by
    -- whoever refers to a deleted record is deleted
    have hmem := (mem_rows_delete.mp hrow).1
    exact holds_delete.mpr ⟨hs.holds_ref hmem ref href, ref_not_mem_dependents hrow href⟩
  isKept hr := hs.isKept (mem_rows_delete.mp hr).1

theorem Intact.change {s t : Store} (hs : s.Intact) (h : s.Change t) : t.Intact := by
  cases h with
  | write hwrite => exact hs.write hwrite
  | delete key => exact hs.delete key

theorem Writable.change {s t : Store} (hs : s.Writable) (h : s.Change t) : t.Writable := by
  cases h with
  | write hwrite hwritable => exact hs.write hwritable hwrite
  | delete key => exact hs.keep

end Store

theorem Catalog.Reached.intact {c : Catalog} (h : c.Reached) : c.store.Intact :=
  h.store_induction Store.intact_empty fun _ _ => Store.Intact.change

/-- All that sessions store can be put in writing. -/
theorem Catalog.Reached.writable {c : Catalog} (h : c.Reached) : c.store.Writable :=
  h.store_induction Store.writable_empty fun _ _ => Store.Writable.change

end RequestCatalog
