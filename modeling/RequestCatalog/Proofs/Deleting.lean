import Mathlib.Order.Bounds.Basic
import RequestCatalog.Proofs.Inheritance.Authentication
import RequestCatalog.Proofs.Nesting

/-! # What a deletion takes

  A deletion is told by a set of records, without the rounds in which they are found: the least
  set with the record in it that has, with each of its members, whoever refers to that member
  (`Store.Closed`). There is such a set for every store, also where references go round.

  * `Store.isLeast_dependents`: it is what goes with the record.
  * `Store.holds_of_isLeast`: if the record is stored, so are all members.
  * `Catalog.Reached.deletes_least`: a deletion takes this set from the tables and nothing else.
    A name that no source has is noticed too late to change this. Where too many records stand
    below each other, the deletion is refused and takes nothing
    (`Catalog.nested_folder_not_deleted`).
-/

namespace RequestCatalog

namespace Store

variable {s : Store} {k : Kind} {key : Key}

/-! ### Closed sets of records -/

/-- Whoever refers to a member is a member. -/
def Closed (s : Store) (gone : Set Key) : Prop :=
  ∀ k, ∀ row ∈ s.rows k, ∀ ref ∈ row.refs, ref ∈ gone → row.key ∈ gone

/-- Whatever depends on a member of a closed set is a member. -/
theorem Closed.mem_of_depends {gone : Set Key} (hclosed : s.Closed gone) (hmem : key ∈ gone)
    {other : Key} (h : s.Depends key other) : other ∈ gone := by
  induction h with
  | self => exact hmem
  | refers hrow href _ ih => exact hclosed _ _ hrow _ href ih

/-- What depends on a record is closed. -/
theorem closed_depends : s.Closed {other | s.Depends key other} := by
  intro k row hrow ref href hgoes
  exact .refers hrow href hgoes

/-- What goes with a record is the least closed set that has it. -/
theorem isLeast_dependents (s : Store) (key : Key) :
    IsLeast {gone : Set Key | key ∈ gone ∧ s.Closed gone} {other | other ∈ s.dependents key} := by
  simp only [mem_dependents_iff]
  constructor
  · exact ⟨.self, closed_depends⟩
  · intro gone ⟨hmem, hclosed⟩ other hdepends
    exact hclosed.mem_of_depends hmem hdepends

/-- The least closed set that has a stored record has stored records only. -/
theorem holds_of_isLeast (hheld : s.holds key = true) {gone : Set Key}
    (h : IsLeast {gone : Set Key | key ∈ gone ∧ s.Closed gone} gone) {other : Key}
    (hother : other ∈ gone) : s.holds other = true := by
  -- the stored members make a set that is closed as well
  have hstored : s.Closed {member | member ∈ gone ∧ s.holds member = true} := by
    intro k row hrow ref href hmember
    exact ⟨h.1.2 k row hrow ref href hmember.1, holds_of_mem hrow⟩
  have hfewer : gone ⊆ {member | member ∈ gone ∧ s.holds member = true} :=
    h.2 ⟨⟨h.1.1, hheld⟩, hstored⟩
  exact (hfewer hother).2

end Store

/-! ### Deletions -/

namespace Catalog

/-- Wherever sessions get, a stored record that is not too deep can be deleted, from whatever
    source. The records that go are the least set that has the record and, with each member, whoever
    refers to it. Each table loses its members of this set, all of them stored, and keeps the others
    as they are and in their order. No reference is left that names a record which is gone. Under a
    name that no source has the store that is left is the same, and the deletion fails with this
    name. The deletion of a record that is too deep is refused, under any name, and leaves all as it
    was. -/
theorem Reached.deletes_least {c : Catalog} (hc : c.Reached) {k : Kind} {row : Row k}
    (hrow : row ∈ c.store.rows k) :
    (c.store.TooDeep row.key →
      ∀ name, Op.delete row name c = .error (.violation .tooManyLevels) c) ∧
    (¬ c.store.TooDeep row.key → ∃ (left : Store) (gone : Set Key),
      (∀ source : Source, Op.delete row source.name c =
        .ok row { c with store := left, journal := c.journal ++ [.deleted k row.id source] }) ∧
      (∀ name, Source.ofName? name = none →
        Op.delete row name c = .error (.unknownSource name) { c with store := left }) ∧
      IsLeast {gone : Set Key | row.key ∈ gone ∧ c.store.Closed gone} gone ∧
      (∀ key ∈ gone, c.store.holds key = true) ∧
      (∀ l, c.store.Loses left l fun other => other.key ∈ gone) ∧
      ∀ l, ∀ other ∈ left.rows l, ∀ ref ∈ other.refs, left.holds ref = true) := by
  have hheld := Store.holds_of_mem hrow
  constructor
  · intro hdeep name
    exact Op.run_delete_of_error row name c
      ((Store.erase_eq_error_iff hc.intact.distinct hheld).mpr hdeep)
  · intro hdeep
    have herase := Store.erase_of_not_tooDeep hc.intact.distinct hheld hdeep
    have hleast := c.store.isLeast_dependents row.key
    refine ⟨c.store.delete row.key, {key | key ∈ c.store.dependents row.key}, ?_, ?_, hleast, ?_,
      ?_, ?_⟩
    · intro source
      exact Op.run_delete_known row c herase
    · intro name hunknown
      exact Op.run_delete_unknown row c hunknown herase
    · intro key hkey
      exact Store.holds_of_isLeast hheld hleast hkey
    · intro l
      exact Store.loses_delete.congr fun other _ => Store.mem_dependents_iff.symm
    · intro l other hother
      exact (hc.intact.delete row.key).holds_ref hother

/-- Where two folders lie inside each other, each takes the other with it, and the request that
    lies in one of them. The workspace stays. Under the name of no source the deletion fails and
    does the same. -/
theorem looped_deletes_least :
    ∃ a ∈ looped.store.rows .folder, ∃ (left : Store) (gone : Set Key), a.id = "a" ∧
      Op.delete a "window" looped = .ok a { looped with
        store := left, journal := looped.journal ++ [.deleted .folder a.id .window] } ∧
      Op.delete a "nobody" looped =
        .error (.unknownSource "nobody") { looped with store := left } ∧
      (∀ l, looped.store.Loses left l fun other => other.key ∈ gone) ∧
      (∀ f ∈ looped.store.rows .folder, f.key ∈ gone) ∧
      (∀ r ∈ looped.store.rows (.request .http), r.key ∈ gone) ∧
      ∀ w ∈ looped.store.rows .workspace, w.key ∉ gone := by
  have hstored : (looped.store.get? .folder "a").isSome = true := by decide +kernel
  obtain ⟨a, hget⟩ := Option.isSome_iff_exists.mp hstored
  have hid := Store.id_of_get? hget
  have hkey : a.key = ⟨.folder, "a"⟩ := congrArg (Key.mk .folder) hid
  have hshallow : ¬ looped.store.TooDeep a.key :=
    Store.not_tooDeep_of_erase looped_reached.intact.distinct
      (Store.holds_of_mem (Store.mem_of_get? hget))
      (hkey ▸ by decide +kernel)
  obtain ⟨left, gone, hknown, hunknown, ⟨⟨hmem, hclosed⟩, hleast⟩, -, hloses, -⟩ :=
    (looped_reached.deletes_least (Store.mem_of_get? hget)).2 hshallow
  have ha : (⟨.folder, "a"⟩ : Key) ∈ gone := hkey ▸ hmem
  have hfolders : ∀ f ∈ looped.store.rows .folder, f.key ∈ gone := by
    have hrefs : ∀ f ∈ looped.store.rows .folder,
        f.key = ⟨.folder, "a"⟩ ∨ (⟨.folder, "a"⟩ : Key) ∈ f.refs := by decide +kernel
    intro f hf
    rcases hrefs f hf with hsame | href
    · rwa [hsame]
    · exact hclosed .folder f hf _ href ha
  refine ⟨a, Store.mem_of_get? hget, left, gone, hid, hknown .window, hunknown "nobody" rfl, hloses,
    hfolders, ?_, ?_⟩
  · have hrefs : ∀ r ∈ looped.store.rows (.request .http),
        ∃ f ∈ looped.store.rows .folder, f.key ∈ r.refs := by decide +kernel
    intro r hr
    obtain ⟨f, hf, href⟩ := hrefs r hr
    exact hclosed (.request .http) r hr _ href (hfolders f hf)
  · -- the records that are no workspaces make a closed set, since workspaces refer to nothing
    have hothers : looped.store.Closed {key | key.kind ≠ .workspace} := by
      intro k row _ ref href _ hkind
      obtain rfl : k = .workspace := hkind
      simp [Row.refs, Columns.refs] at href
    intro w _ hgone
    exact hleast ⟨by simp [Row.key], hothers⟩ hgone rfl

/-! ### A deletion that is refused -/

/-- The outermost of a thousand and one folders inside each other is stored, and no deletion takes
    it away. -/
theorem nested_folder_not_deleted :
    (nested 1000).Reached ∧ ∃ f ∈ (nested 1000).store.rows .folder, f.id = "a" ∧
      ∀ source : Source, Op.delete f source.name (nested 1000) =
        .error (.violation .tooManyLevels) (nested 1000) := by
  have hreached := (nesting 1000).served.reached
  obtain ⟨f, hf, hid⟩ := (nesting 1000).exists_outermost
  have hkey : f.key = ⟨.folder, level 0⟩ := congrArg (Key.mk .folder) hid
  have hdeep : (nested 1000).store.TooDeep f.key := hkey ▸ nested_folder_tooDeep (by decide)
  refine ⟨hreached, f, hf, hid, fun source => ?_⟩
  exact Op.run_delete_of_error f source.name (nested 1000)
    ((Store.erase_eq_error_iff hreached.intact.distinct (Store.holds_of_mem hf)).mpr hdeep)

end Catalog

end RequestCatalog
