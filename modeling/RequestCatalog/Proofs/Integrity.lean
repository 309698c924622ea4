import RequestCatalog.Proofs.FolderDeletes

/-! # The tables at any time

  However a session goes, and whichever of its steps fail, the tables stay in order.

  * `Store.Intact` says that identifiers are unique and that references name records.
    `Store.Filled` adds that no identifier is empty and that folders have kept priorities.
  * `Row.optional_of_isNothing`: only the columns of `Kind.optionalColumns` ever hold
    nothing. For most columns their types say so; for priorities it has to be known that
    they are numbers.
  * `Store.Advances`: a step leaves the records of a table that stay in their order, and
    at most one record is new, which comes last.
-/

namespace RequestCatalog

open Relation

/-! ### Columns that hold nothing -/

/-- The column holds nothing. A priority that is not a number stands for nothing, and a free-form
    column always holds a value. -/
def Held.isNothing : Held → Bool
  | .text s => s.isNone
  | .whole n => n.isNone
  | .priority x => x.all Float.isNaN
  | .freeForm _ => false
  | .time t => t.isNone

/-- The columns of a kind that may hold nothing. -/
def Kind.optionalColumns : Kind → List String
  | .workspace => ["authentication_type"]
  | .folder => ["folder_id", "authentication_type"]
  | .request .http => ["folder_id", "body_type", "body", "authentication_type"]
  | .request .grpc => ["folder_id", "service", "method", "authentication_type"]
  | .exchange .http => ["body"]
  | .exchange .grpc => ["service", "method"]

/-- In a record whose priority is a number, only optional columns hold nothing. -/
theorem Row.optional_of_isNothing {k : Kind} {row : Row k}
    (hnumber : ∀ x, Columns.priority? row.data = some x → x.isNaN = false) :
    ∀ column ∈ row.held, column.2.isNothing = true → column.1 ∈ k.optionalColumns := by
  have hall : row.held.all (fun column =>
      !column.2.isNothing || k.optionalColumns.contains column.1) = true := by
    rcases k with _ | _ | (_ | _) | (_ | _) <;>
      simp [Columns.priority?] at hnumber <;>
      simp [Row.held, Columns.sketch, Call.sketch, Detail.sketch, Settings.sketch, Sketch.held,
        Settings.Sketch.held, Call.Sketch.held, Detail.Sketch.held, finalHeld, timesHeld,
        Given.text, Given.whole, Given.priority, Given.toOption, Held.isNothing,
        Kind.optionalColumns, hnumber]
  intro column hmem hnothing
  have h := List.all_eq_true.mp hall column hmem
  simpa [hnothing] using h

/-! ### Filled tables -/

namespace Store

variable {s t : Store}

/-- No identifier is empty, and every priority is a kept one. -/
structure Filled (s : Store) : Prop where
  id_ne : ∀ {k : Kind} {row : Row k}, row ∈ s.rows k → row.id ≠ ""
  isKept : ∀ {k : Kind} {row : Row k}, row ∈ s.rows k →
    ∀ x, Columns.priority? row.data = some x → Priority.IsKept x

theorem filled_empty : empty.Filled where
  id_ne h := absurd h not_mem_rows_empty
  isKept h := absurd h not_mem_rows_empty

theorem Filled.write (hs : s.Filled) {k : Kind} {id : String} {d : Sketch k} {now : Instant}
    {row : Row k} (hid : id ≠ "") (h : s.write id d now = .ok (row, t)) : t.Filled := by
  obtain ⟨hcandidate, -, rfl⟩ := write_eq_ok_iff.mp h
  constructor
  · intro l x hx
    rcases mem_rows_put_cases hx with hmem | heq
    · exact hs.id_ne hmem
    · cases heq
      rwa [(candidate_cases hcandidate).1]
  · intro l x hx
    rcases mem_rows_put_cases hx with hmem | heq
    · exact hs.isKept hmem
    · cases heq
      obtain ⟨completed, hcolumns⟩ := columns?_of_candidate hcandidate
      exact Sketch.isKept_of_columns? hcolumns

theorem Filled.deletes (hs : s.Filled) (h : ReflTransGen Api.Deletes s t) : t.Filled := by
  induction h with
  | refl => exact hs
  | tail _ hone ih =>
    obtain ⟨key, rfl⟩ := hone.exists_eq_delete
    exact ⟨fun hrow => ih.id_ne (mem_rows_delete.mp hrow).1,
      fun hrow => ih.isKept (mem_rows_delete.mp hrow).1⟩

theorem Filled.turn (hs : s.Filled) (h : s.Turn t) : t.Filled := by
  cases h with
  | deletes h => exact hs.deletes h
  | writes hid h => exact hs.write hid h

/-! ### The order of the records -/

/-- From the first store to the second, the table keeps the records that stay in their order. At
    most one record is new, and it comes last. -/
def Advances (s t : Store) (k : Kind) : Prop :=
  ∃ stay new : List String, (t.rows k).map Row.id = stay ++ new ∧
    stay.Sublist ((s.rows k).map Row.id) ∧ new.length ≤ 1 ∧
      ∀ id ∈ new, s.holds ⟨k, id⟩ = false

theorem Advances.of_sublist {k : Kind}
    (h : ((t.rows k).map Row.id).Sublist ((s.rows k).map Row.id)) : s.Advances t k :=
  ⟨_, [], (List.append_nil _).symm, h, by simp, by simp⟩

theorem sublist_rows_of_deletes (h : ReflTransGen Api.Deletes s t) (k : Kind) :
    (t.rows k).Sublist (s.rows k) := by
  induction h with
  | refl => exact List.Sublist.refl _
  | tail _ hone ih =>
    obtain ⟨key, rfl⟩ := hone.exists_eq_delete
    exact loses_delete.1.trans ih

/-- A record that is put into its table keeps the place of the old one, or comes last. -/
theorem advances_put {k : Kind} (row : Row k) (l : Kind) : s.Advances (s.put row) l := by
  by_cases hl : l = k
  · subst hl
    cases hold : s.holds row.key with
    | true =>
      apply Advances.of_sublist
      rw [ids_put_of_holds hold]
    | false =>
      refine ⟨(s.rows l).map Row.id, [row.id], ?_, List.Sublist.refl _, by simp, ?_⟩
      · rw [rows_put_of_not_holds hold, List.map_append, List.map_singleton]
      · intro id hid
        rw [List.mem_singleton.mp hid]
        exact hold
  · apply Advances.of_sublist
    rw [rows_put_ne hl]

theorem Turn.advances (h : s.Turn t) (k : Kind) : s.Advances t k := by
  cases h with
  | deletes h => exact .of_sublist ((sublist_rows_of_deletes h k).map Row.id)
  | writes _ h =>
    obtain ⟨-, -, rfl⟩ := write_eq_ok_iff.mp h
    exact advances_put _ k

end Store

/-! ### Every session -/

namespace Catalog

theorem Reached.filled {c : Catalog} (h : c.Reached) : c.store.Filled :=
  h.turn_induction Store.filled_empty fun _ _ hs => hs.turn

/-- Wherever sessions get: identifiers are not empty and tell the records of a table apart, every
    reference names a record, only optional columns hold nothing, and priorities are numbers
    whose zero has no sign. Each further step keeps the order of what stays in a table, and puts
    what is new last. -/
theorem Reached.keeps_tables {c : Catalog} (h : c.Reached) :
    (∀ k, ((c.store.rows k).map Row.id).Nodup ∧ ∀ row ∈ c.store.rows k,
      row.id ≠ "" ∧
      (∀ ref ∈ row.refs, ∃ other ∈ c.store.rows ref.kind, other.id = ref.id) ∧
      (∀ column ∈ row.held, column.2.isNothing = true → column.1 ∈ k.optionalColumns) ∧
      ∀ x, Columns.priority? row.data = some x → x.isNaN = false ∧ x ≠ -0.0) ∧
    ∀ (t : TimedStep) (k : Kind), c.store.Advances (t.take c).2.store k := by
  refine ⟨fun k => ⟨h.intact.distinct k, fun row hrow => ⟨h.filled.id_ne hrow, ?_, ?_, ?_⟩⟩, ?_⟩
  · exact fun ref href => Store.holds_iff.mp (h.intact.holds_ref hrow ref href)
  · exact Row.optional_of_isNothing fun x hx => (h.filled.isKept hrow x hx).isNaN_eq_false
  · exact fun x hx => ⟨(h.filled.isKept hrow x hx).isNaN_eq_false,
      (h.filled.isKept hrow x hx).ne_negative_zero⟩
  · exact fun t k => (t.turn c).advances k

/-- The folders of the session refer to stored records, and the call that deletes the outer one
    keeps the order of the others. -/
theorem furnished_keeps_tables :
    (furnished.store.rows .folder).map (fun f => (f.id, f.refs)) =
        [("a", [⟨.workspace, "w"⟩]), ("b", [⟨.workspace, "w"⟩, ⟨.folder, "a"⟩]),
          ("z", [⟨.workspace, "w"⟩])] ∧
      (∀ f ∈ furnished.store.rows .folder, ∀ ref ∈ f.refs,
        ∃ other ∈ furnished.store.rows ref.kind, other.id = ref.id) ∧
      furnished.store.Advances (removal.take furnished).2.store .folder := by
  obtain ⟨htables, hsteps⟩ := furnished_reached.keeps_tables
  exact ⟨by decide +kernel, fun f hf => ((htables .folder).2 f hf).2.1, hsteps removal .folder⟩

end Catalog

end RequestCatalog
