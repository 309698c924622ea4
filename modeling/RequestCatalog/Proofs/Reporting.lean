import RequestCatalog.Verbosity

/-! # How much is reported

  Setting the verbosity leaves the root with a handler and, if the name stands for a level, with
  that level (`Verbosity.set_snd`). So of several settings, one after the other, the last name that
  stands for a level decides, and there is one handler however often it is set
  (`Verbosity.level_after`, `Verbosity.handlers_after`, `Verbosity.after_initial`).
-/

namespace RequestCatalog

namespace Verbosity

variable {v : Verbosity} {name : String}

/-- The level that a name stands for, if it stands for one. -/
def level? (name : String) : Option Nat :=
  match Meaning.ofName (inCapitals name) with
  | .level n => some n
  | .misuse _ => none

/-- The root after several settings, one after the other. -/
def after (v : Verbosity) (names : List String) : Verbosity :=
  names.foldl (fun v name => (v.set name).2) v

theorem after_cons (v : Verbosity) (name : String) (rest : List String) :
    v.after (name :: rest) = (v.set name).2.after rest := rfl

/-! ### What names stand for -/

/-- Two names stand for something that is no level. -/
theorem Meaning.exists_misuse_iff {name : String} :
    (∃ m, ofName name = .misuse m) ↔ name = "BASIC_FORMAT" ∨ name = "_STYLES" := by
  unfold ofName
  split <;> simp_all

/-- There are six levels. -/
theorem Meaning.mem_of_level {name : String} {n : Nat} (h : ofName name = .level n) :
    n ∈ [0, 10, 20, 30, 40, 50] := by
  unfold ofName at h
  split at h <;> cases h <;> decide

theorem level?_eq_some_iff {n : Nat} :
    level? name = some n ↔ Meaning.ofName (inCapitals name) = .level n := by
  unfold level?
  cases Meaning.ofName (inCapitals name) <;> simp

/-! ### One setting -/

/-- A handler is attached if there was none, and the level is that of the name if the name stands
    for one. -/
theorem set_snd (v : Verbosity) (name : String) :
    (v.set name).2 = ⟨(level? name).getD v.level, max v.handlers 1⟩ := by
  unfold set level?
  cases Meaning.ofName (inCapitals name) <;> rfl

/-- Setting fails for the two names that stand for something else, and for no other name. -/
theorem set_fails_iff (v : Verbosity) (name : String) :
    (∃ m, (v.set name).1 = .error m) ↔
      inCapitals name = "BASIC_FORMAT" ∨ inCapitals name = "_STYLES" := by
  rw [← Meaning.exists_misuse_iff]
  unfold set
  cases Meaning.ofName (inCapitals name) <;> simp

/-! ### Several settings -/

/-- The last name that stands for a level decides the level. -/
theorem level_after (v : Verbosity) (names : List String) :
    (v.after names).level = (names.filterMap level?).getLast?.getD v.level := by
  induction names generalizing v with
  | nil => rfl
  | cons name rest ih =>
    rw [after_cons, ih, set_snd]
    cases hlevel : level? name with
    | none => simp [hlevel]
    | some n => simp [hlevel, List.getLast?_cons]

/-- However often the verbosity is set, one handler is enough. -/
theorem handlers_after (v : Verbosity) {names : List String} (hne : names ≠ []) :
    (v.after names).handlers = max v.handlers 1 := by
  -- where a handler is attached, no further one is
  have hkept : ∀ (names : List String) (v : Verbosity), 1 ≤ v.handlers →
      (v.after names).handlers = v.handlers := by
    intro names
    induction names with
    | nil => exact fun _ _ => rfl
    | cons name rest ih =>
      intro v hv
      rw [after_cons, ih, set_snd]
      · exact Nat.max_eq_left hv
      · rw [set_snd]
        exact Nat.le_max_right _ _
  obtain ⟨name, rest, rfl⟩ := List.exists_cons_of_ne_nil hne
  rw [after_cons, hkept, set_snd]
  rw [set_snd]
  exact Nat.le_max_right _ _

/-- From the start, several settings leave one handler and one of the six levels: that of the last
    name that stands for one, or the level for ordinary work. -/
theorem after_initial {names : List String} (hne : names ≠ []) :
    initial.after names = ⟨(names.filterMap level?).getLast?.getD 20, 1⟩ ∧
      (initial.after names).level ∈ [0, 10, 20, 30, 40, 50] := by
  constructor
  · have hlevel := level_after initial names
    have hhandlers := handlers_after initial hne
    cases hafter : initial.after names with
    | mk level handlers =>
      rw [hafter] at hlevel hhandlers
      rw [show level = _ from hlevel, show handlers = _ from hhandlers]
      rfl
  · rw [level_after]
    cases hlast : (names.filterMap level?).getLast? with
    | none => decide
    | some n =>
      obtain ⟨name, -, hname⟩ := List.mem_filterMap.mp (List.mem_of_getLast? hlast)
      exact Meaning.mem_of_level (level?_eq_some_iff.mp hname)

example : initial.after ["debug", "Warn", "_styles"] = ⟨30, 1⟩ := by decide +kernel

end Verbosity

end RequestCatalog
