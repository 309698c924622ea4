import RequestCatalog.Proofs.Priority.Arithmetic
import RequestCatalog.Proofs.Showing
import RequestCatalog.Proofs.Siblings

/-! # Priorities stay finite where there is room

  Callers send finite priorities only. A copy gets a priority that is computed: one step
  past its source, or the middle between its source and the next sibling. The step is
  always finite. The middle is half of a sum, and the sum may lie beyond the greatest
  number although both priorities do not. Then the copy is stored at infinity.

  * `Store.HasRoomBehind` says that this sum is finite, and `Intact.placeAfter_spec` that
    nothing else decides about the place of a copy.
  * `Catalog.Roomy` are the catalogues that calls reach while they copy only requests with
    room behind them. All priorities in them are finite (`Roomy.finite`).
-/

namespace RequestCatalog

open Relation

/-! ### Priorities that are kept -/

/-- A number is kept in a form that is finite exactly if the number is. -/
theorem Priority.isFinite_kept_iff {x y : Float} (h : (Given.value x).keptPriority = .value y) :
    y.isFinite = true ↔ x.isFinite = true := by
  refine ⟨fun hy => ?_, isFinite_of_kept h⟩
  rw [Given.keptPriority_value] at h
  split at h
  · cases h
  · split at h
    · next hzero =>
      -- infinity is not equal to zero
      show x.toModel.unpack.isFinite = true
      have hzero : x.toModel.unpack.beq (0.0 : Float).toModel.unpack = true := hzero
      cases hx : x.toModel.unpack with
      | zero | finite => rfl
      | notANumber =>
        rw [hx] at hzero
        cases hzero
      | infinity s =>
        rw [hx] at hzero
        cases s <;> cases hzero
    · cases h
      exact hy

namespace Store

variable {s t : Store}

/-- The priorities of all folders and requests are finite. -/
def FinitePriorities (s : Store) : Prop :=
  ∀ k, ∀ row ∈ s.rows k, ∀ x, Columns.priority? row.data = some x → x.isFinite = true

theorem finitePriorities_empty : empty.FinitePriorities :=
  fun _ _ h => absurd h not_mem_rows_empty

theorem FinitePriorities.put (hs : s.FinitePriorities) {k : Kind} {row : Row k}
    (hrow : ∀ x, Columns.priority? row.data = some x → x.isFinite = true) :
    (s.put row).FinitePriorities := by
  intro l x hx
  rcases mem_rows_put_cases hx with hmem | heq
  · exact hs l x hmem
  · cases heq
    exact hrow

theorem FinitePriorities.delete (hs : s.FinitePriorities) (key : Key) :
    (s.delete key).FinitePriorities :=
  fun k row hrow => hs k row (mem_rows_delete.mp hrow).1

/-! ### The place of a copy -/

section place

variable {p : Protocol} {r : Row (.request p)}

/-- The sibling that follows a request. -/
def nextSibling? (s : Store) (r : Row (.request p)) : Option (Row (.request p)) :=
  ((s.orderedSiblings r).dropWhile (·.id != r.id))[1]?

/-- There is room for a copy behind the request: if a sibling follows, the sum of the two
    priorities is finite. -/
def HasRoomBehind (s : Store) (r : Row (.request p)) : Prop :=
  ∀ next ∈ s.nextSibling? r, (r.requestPriority + next.requestPriority).isFinite = true

instance : Decidable (s.HasRoomBehind r) :=
  inferInstanceAs (Decidable (∀ next ∈ s.nextSibling? r, _))

theorem nextSibling?_of_split {before rest : List (Row (.request p))}
    (hsplit : s.orderedSiblings r = before ++ r :: rest) (hbefore : ∀ x ∈ before, x.id ≠ r.id) :
    s.nextSibling? r = rest.head? := by
  unfold nextSibling?
  rw [hsplit, List.dropWhile_append_of_pos (by simpa using hbefore)]
  simp [List.head?_eq_getElem?]

/-- Among finite priorities, the place of a copy is a number. It is finite exactly if there is
    room behind the source. -/
theorem Intact.placeAfter_spec (hs : s.Intact) (hfinite : s.FinitePriorities)
    (hr : r ∈ s.rows (.request p)) :
    (s.placeAfter r).1.isNaN = false ∧
      ((s.placeAfter r).1.isFinite = true ↔ s.HasRoomBehind r) := by
  obtain ⟨before, rest, hsplit⟩ := List.append_of_mem (mem_orderedSiblings.mpr ⟨hr, rfl, rfl⟩)
  have hbefore := hs.id_ne_of_split hsplit
  have hnext := nextSibling?_of_split hsplit hbefore
  have hsource : r.requestPriority.isFinite = true := hfinite _ r hr _ rfl
  cases rest with
  | nil =>
    have hstep := Priority.isFinite_add_gap hsource
    rw [placeAfter_last hsplit hbefore]
    refine ⟨Priority.isNaN_of_isFinite hstep, iff_of_true hstep ?_⟩
    intro next h
    rw [hnext] at h
    cases h
  | cons next more =>
    have hmem : next ∈ s.orderedSiblings r := by
      rw [hsplit]
      simp
    have hsibling : next.requestPriority.isFinite = true :=
      hfinite _ next (mem_orderedSiblings.mp hmem).1 _ rfl
    obtain ⟨hnumber, hmiddle⟩ := Priority.middle_spec hsource hsibling
    have hplace : (s.placeAfter r).1 = (r.requestPriority + next.requestPriority) / 2.0 := by
      rw [placeAfter_next hsplit hbefore]
      dsimp only
      split <;> rfl
    rw [hplace]
    refine ⟨hnumber, hmiddle.trans ?_⟩
    unfold HasRoomBehind
    rw [hnext]
    simp

end place

/-! ### Changes -/

/-- A record that was sent is written with a finite priority. -/
theorem FinitePriorities.write_form (hs : s.FinitePriorities) {k : Kind} {form : Api.Form k}
    (hsent : form.Sent) {id : String} {now : Instant} {row : Row k}
    (hwrite : s.write id form.draft.data now = .ok (row, t)) : t.FinitePriorities := by
  obtain ⟨hcandidate, -, rfl⟩ := write_eq_ok_iff.mp hwrite
  refine hs.put fun y hy => ?_
  cases k with
  | workspace | exchange p => cases hy
  | folder =>
    obtain ⟨members, hform, -⟩ := hsent
    exact Priority.isFinite_of_kept (priority_of_candidate hcandidate rfl hy)
      (Api.priority_of_sound (Api.Form.folder_sound hform).sortPriority)
  | request p =>
    obtain ⟨members, hform, -⟩ := hsent
    exact Priority.isFinite_of_kept (priority_of_candidate hcandidate rfl hy)
      (Api.priority_of_sound (Api.Form.request_sound hform).sortPriority)

/-- Once a copy is written, all priorities are finite exactly if its place is. -/
theorem FinitePriorities.write_copy_iff (hs : s.FinitePriorities) {p : Protocol}
    {d : Draft (.request p)} {id : String} {place : Float} {now : Instant}
    {row : Row (.request p)} (hwrite : s.write id (Op.copyAt d place).data now = .ok (row, t)) :
    t.FinitePriorities ↔ place.isFinite = true := by
  obtain ⟨hcandidate, -, rfl⟩ := write_eq_ok_iff.mp hwrite
  have hkept : row.requestPriority.isFinite = true ↔ place.isFinite = true :=
    Priority.isFinite_kept_iff (priority_of_candidate hcandidate rfl rfl)
  rw [← hkept]
  constructor
  · intro h
    exact h _ row (mem_rows_put.mpr (.inl rfl)) _ rfl
  · intro h
    exact hs.put fun x hx => Option.some.inj hx ▸ h

theorem FinitePriorities.deletes (hs : s.FinitePriorities) (h : ReflTransGen Api.Deletes s t) :
    t.FinitePriorities := by
  induction h with
  | refl => exact hs
  | tail _ hone ih =>
    obtain ⟨key, rfl⟩ := hone.exists_eq_delete
    exact ih.delete key

end Store

/-! ### Calls -/

/-- If the command copies a request, there is room behind it. -/
def Api.Command.HasRoom (s : Store) : Command → Prop
  | .duplicate p id _ => ∀ r ∈ s.get? (.request p) id, s.HasRoomBehind r
  | _ => True

/-- A command keeps priorities finite if there is room for the copy that it makes. -/
theorem Store.FinitePriorities.run {command : Api.Command} {c : Catalog}
    (hs : c.store.FinitePriorities) (hintact : c.store.Intact) (hsound : command.Sound)
    (hroom : command.HasRoom c.store) : (command.run.left c).store.FinitePriorities := by
  cases command.run_left c with
  | deletes h => exact hs.deletes h
  | @writes k form row hform _ _ hwrite _ _ => exact hs.write_form (hsound k form hform) hwrite
  | @copies p r row id source place hcommand hget hplace _ hwrite _ =>
    subst hcommand
    rw [hs.write_copy_iff hwrite, hplace]
    exact (hintact.placeAfter_spec hs (Store.mem_of_get? hget)).2.mpr (hroom r hget)

/-- Only the address of copies has a command that copies. -/
theorem Api.Resource.eq_copies_of_duplicate {resource : Resource} {call : Incoming}
    {method : String} {p : Protocol} {id : String} {source : Source}
    (h : resource.command? call method = some (.sound (.duplicate p id source))) :
    resource = .copies p id := by
  unfold command? at h
  split at h
  -- every other address gives another command, some of them only once the call was checked
  all_goals
    first
    | cases h
    | obtain ⟨_, -, hother⟩ := Checked.map_eq_sound_iff.mp (Option.some.inj h)
      cases hother
  rfl

namespace Catalog

/-- The call copies no request without room behind it. -/
def GivesRoom (c : Catalog) (incoming : Api.Incoming) : Prop :=
  ∀ command, incoming.Gives command → command.HasRoom c.store

/-- The catalogues that calls reach from an empty store while all identifiers made for new
    records are new, and only requests are copied that have room behind them. -/
inductive Roomy : Catalog → Prop where
  | start {c : Catalog} (h : c.store = .empty) : Roomy c
  | call {c : Catalog} (h : Roomy c) (at? : Option Int) (incoming : Api.Incoming)
      (hfresh : c.MakesFresh (TimedStep.take ⟨at?, .call incoming⟩ c).2)
      (hroom : c.GivesRoom incoming) : Roomy (TimedStep.take ⟨at?, .call incoming⟩ c).2

variable {c : Catalog}

theorem Roomy.served (h : c.Roomy) : c.Served := by
  induction h with
  | start h => exact .start h
  | call _ at? incoming hfresh _ ih => exact ih.call at? incoming hfresh

/-- A call keeps priorities finite if it gives room. -/
theorem GivesRoom.keeps_finite {incoming : Api.Incoming} (hroom : c.GivesRoom incoming)
    (hintact : c.store.Intact) (hs : c.store.FinitePriorities) (at? : Option Int) :
    (TimedStep.take ⟨at?, .call incoming⟩ c).2.store.FinitePriorities := by
  rw [TimedStep.take_snd, Step.call_left]
  rcases Api.serve_left incoming (TimedStep.before ⟨at?, .call incoming⟩ c) with
    hsame | ⟨command, hgives, hstore, -⟩
  · rw [hsame]
    exact hs
  · rw [hstore]
    exact Store.FinitePriorities.run (c := TimedStep.before ⟨at?, .call incoming⟩ c) hs hintact
      hgives.sound (hroom command hgives)

/-- Where there is room for every copy, all priorities are finite. -/
theorem Roomy.finite (h : c.Roomy) : c.store.FinitePriorities := by
  induction h with
  | start h =>
    rw [h]
    exact Store.finitePriorities_empty
  | call hc at? incoming _ hroom ih =>
    exact hroom.keeps_finite hc.served.reached.intact ih at?

/-! ### Calls with room, tested -/

/-- There is room for whatever this address asks to be copied. -/
def roomFor (c : Catalog) (incoming : Api.Incoming) : Bool :=
  match Api.Resource.ofPath? incoming.path with
  | some (.copies p id) =>
    (c.store.get? (.request p) id).all fun r => decide (c.store.HasRoomBehind r)
  | _ => true

theorem givesRoom_of_roomFor {incoming : Api.Incoming} (h : c.roomFor incoming = true) :
    c.GivesRoom incoming := by
  rintro command ⟨resource, hresource, hcommand⟩
  cases command with
  | duplicate p id source =>
    intro r hget
    have hcopies : resource = .copies p id := Api.Resource.eq_copies_of_duplicate hcommand
    unfold roomFor at h
    rw [hresource, hcopies] at h
    have hget : c.store.get? (.request p) id = some r := hget
    simpa [hget] using h
  | _ => trivial

/-- The steps are calls, every identifier that they make for a new record is new, and there is
    room for every copy. -/
def roomyCalls (c : Catalog) : List TimedStep → Bool
  | [] => true
  | t :: rest =>
    match t.step with
    | .call incoming =>
      decide (c.MakesFresh (t.take c).2) && c.roomFor incoming && roomyCalls (t.take c).2 rest
    | _ => false

/-- A run of calls with room for every copy stays among the catalogues that such calls reach. -/
theorem Roomy.runFrom {steps : List TimedStep} (h : c.Roomy)
    (hsteps : c.roomyCalls steps = true) : (runFrom c steps).2.Roomy := by
  induction steps generalizing c with
  | nil => exact h
  | cons t rest ih =>
    obtain ⟨at?, step⟩ := t
    cases step with
    | call incoming =>
      unfold roomyCalls at hsteps
      simp only [Bool.and_eq_true, decide_eq_true_eq] at hsteps
      obtain ⟨⟨hfresh, hroom⟩, hrest⟩ := hsteps
      exact ih (h.call at? incoming hfresh (givesRoom_of_roomFor hroom)) hrest
    | _ => cases hsteps

end Catalog

end RequestCatalog
