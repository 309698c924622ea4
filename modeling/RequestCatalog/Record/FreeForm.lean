import RequestCatalog.Json

/-! # Free-form columns

  A free-form column holds any value at all. It is handed the value in writing. Where the
  writing is a numeral the column reads it and holds the number; everything else it holds
  as it was written.

  A value that agrees with the one that a column holds already is not written again, so the
  column goes on holding the older one of the two. Whether NaN agrees with NaN depends on
  where both come from: the one that is read from writing is always the same, and any other
  is one of its own.
-/

namespace RequestCatalog

/-- A free-form value in a record. -/
inductive FreeForm where
  /-- A value that a caller put together. -/
  | loose (j : Json)
  /-- A value in writing, as a column holds it and as a body brings it. -/
  | written (j : Json)
  /-- A number that stands alone in a column. -/
  | number (n : Number.Reading)

namespace FreeForm

/-- The value. -/
def value : FreeForm → Json
  | .loose j => j
  | .written j => j
  | .number n => .ofNumber n.number

/-- The value is in writing. -/
def isWritten : FreeForm → Bool
  | .written _ => true
  | _ => false

/-- What a column holds once it was handed a value. -/
def keptValue : Json → FreeForm
  | .int n => ((Number.whole n).kept?).elim (.written (.int n)) .number
  | .real x => ((Number.real x).kept?).elim (.written (.real x)) .number
  | j => .written j

/-- What a column holds once it was given this. A number that it holds already stays. -/
def kept : FreeForm → FreeForm
  | .loose j => keptValue j
  | .written j => keptValue j
  | .number n => .number n

/-- The value as a caller would put it together. -/
def loosened (f : FreeForm) : FreeForm := .loose f.value

/-- What a column holds agrees with what it is given. -/
def agrees (old given : FreeForm) : Bool :=
  old.value.agrees (old.isWritten && given.isWritten) given.value

/-- What a column is given, laid over what it holds. -/
def laid : Option FreeForm → Option FreeForm → Option FreeForm
  | none, old => old
  | some given, none => some given
  | some given, some old => some (if old.agrees given then old else given)

/-! ### What is kept stays as it is -/

theorem kept_keptValue (j : Json) : (keptValue j).kept = keptValue j := by
  cases j with
  | int n =>
    cases h : (Number.whole n).kept? with
    | none => simp [keptValue, kept, h]
    | some m => simp [keptValue, kept, h]
  | real x =>
    cases h : (Number.real x).kept? with
    | none => simp [keptValue, kept, h]
    | some m => simp [keptValue, kept, h]
  | null | bool | text | list | object => rfl

/-- What a column holds, it holds in the form it has. -/
@[simp] theorem kept_kept (f : FreeForm) : f.kept.kept = f.kept := by
  cases f with
  | loose j => exact kept_keptValue j
  | written j => exact kept_keptValue j
  | number n => rfl

/-- A column that is left out stays as it is. -/
@[simp] theorem laid_none (old : Option FreeForm) : laid none old = old := rfl

end FreeForm

end RequestCatalog
