import Mathlib.Data.Int.Cast.Lemmas
import Mathlib.Data.Prod.Lex
import RequestCatalog.Priority

/-! # The order of priorities

  Priorities other than NaN are in a linear order, in which zero with a sign and
  zero without one stand at the same place. The order is read off the way numbers
  are laid out: `Priority.rank` sends a number to its sign and, for a finite one, to
  its exponent and mantissa, and comparing two numbers compares their ranks.
-/

namespace RequestCatalog

namespace Priority

open Float.Model

/-- Ranks: where a number stands among infinities, signs and zero, and then its exponent and its
    mantissa, both turned round for negative numbers. -/
abbrev Rank := ℤ ×ₗ ℤ ×ₗ ℤ

/-- The rank of a number that is laid out. NaN has none and is given that of zero. -/
def rankOf : UnpackedFloat → Rank
  | .infinity .negative => toLex (-2, toLex (0, 0))
  | .infinity .positive => toLex (2, toLex (0, 0))
  | .notANumber => toLex (0, toLex (0, 0))
  | .zero _ => toLex (0, toLex (0, 0))
  | .finite .negative mantissa exponent _ => toLex (-1, toLex (-exponent, -mantissa))
  | .finite .positive mantissa exponent _ => toLex (1, toLex (exponent, mantissa))

/-- The rank of a priority. -/
def rank (x : Float) : Rank :=
  rankOf x.toModel.unpack

/-! ### Comparing numbers that are laid out -/

section layout

variable {e f : ℤ} {m n : ℕ}

/-- Exponents decide first, then mantissas. -/
theorem then_eq_lt_iff :
    (Ord.compare e f).then (Ord.compare m n) = .lt ↔ e < f ∨ e = f ∧ m < n := by
  simp [Ordering.then_eq_lt, compare_lt_iff_lt]

theorem then_eq_gt_iff :
    (Ord.compare e f).then (Ord.compare m n) = .gt ↔ f < e ∨ e = f ∧ n < m := by
  simp [Ordering.then_eq_gt, compare_gt_iff_gt]

theorem compare_signs : Ord.compare UnpackedFloat.Sign.negative .positive = .lt := rfl

theorem compare_signs' : Ord.compare UnpackedFloat.Sign.positive .negative = .gt := rfl

theorem compare_sign_self (sign : UnpackedFloat.Sign) : Ord.compare sign sign = .eq := by
  cases sign <;> rfl

end layout

variable {u v : UnpackedFloat}

/-- Of two numbers the one of the lower rank is smaller. -/
theorem compare_eq_lt_iff (hu : u.isNaN = false) (hv : v.isNaN = false) :
    u.compare v = some .lt ↔ rankOf u < rankOf v := by
  rcases u with (_ | _) | _ | _ | ⟨_ | _, m, e, hm⟩
  case notANumber => cases hu
  all_goals
    rcases v with (_ | _) | _ | _ | ⟨_ | _, n, f, hn⟩
    case notANumber => cases hv
    all_goals
      dsimp only [UnpackedFloat.compare, rankOf]
      simp [Prod.Lex.toLex_lt_toLex, then_eq_lt_iff, then_eq_gt_iff, compare_signs,
        compare_signs', compare_sign_self]

/-- Numbers of the same rank are equal. -/
theorem compare_eq_eq_iff (hu : u.isNaN = false) (hv : v.isNaN = false) :
    u.compare v = some .eq ↔ rankOf u = rankOf v := by
  rcases u with (_ | _) | _ | _ | ⟨_ | _, m, e, hm⟩
  case notANumber => cases hu
  all_goals
    rcases v with (_ | _) | _ | _ | ⟨_ | _, n, f, hn⟩
    case notANumber => cases hv
    all_goals
      dsimp only [UnpackedFloat.compare, rankOf]
      simp [Ordering.then_eq_eq, compare_signs, compare_signs', compare_sign_self]

/-- What compares at all is not NaN. -/
theorem isNaN_of_compare {o : Ordering} (h : u.compare v = some o) :
    u.isNaN = false ∧ v.isNaN = false := by
  cases u with
  | notANumber => cases h
  | infinity s | zero s | finite s m e hm =>
    cases v with
    | notANumber => cases s <;> cases h
    | infinity | zero | finite => exact ⟨rfl, rfl⟩

/-! ### Comparing priorities -/

variable {x y : Float}

theorem isNaN_of_lt (h : x < y) : x.isNaN = false ∧ y.isNaN = false := by
  have h : decide (UnpackedFloat.lt x.toModel.unpack y.toModel.unpack = true) = true := h
  rw [decide_eq_true_iff, UnpackedFloat.lt, beq_iff_eq] at h
  exact isNaN_of_compare h

theorem isNaN_of_le (h : x ≤ y) : x.isNaN = false ∧ y.isNaN = false := by
  have h : decide (UnpackedFloat.le x.toModel.unpack y.toModel.unpack = true) = true := h
  rw [decide_eq_true_iff, UnpackedFloat.le, Option.any_eq_true] at h
  obtain ⟨o, hcompare, -⟩ := h
  exact isNaN_of_compare hcompare

theorem lt_iff (hx : x.isNaN = false) (hy : y.isNaN = false) : x < y ↔ rank x < rank y := by
  unfold rank
  rw [← compare_eq_lt_iff hx hy]
  show decide (UnpackedFloat.lt _ _ = true) = true ↔ _
  simp [UnpackedFloat.lt]

theorem le_iff (hx : x.isNaN = false) (hy : y.isNaN = false) : x ≤ y ↔ rank x ≤ rank y := by
  unfold rank
  rw [le_iff_lt_or_eq, ← compare_eq_lt_iff hx hy, ← compare_eq_eq_iff hx hy]
  show decide (UnpackedFloat.le _ _ = true) = true ↔ _
  rw [decide_eq_true_iff]
  unfold UnpackedFloat.le
  cases hcompare : x.toModel.unpack.compare y.toModel.unpack with
  | none => simp
  | some o => cases o <;> simp

theorem le_of_lt (hx : x.isNaN = false) (hy : y.isNaN = false) (h : x < y) : x ≤ y :=
  (le_iff hx hy).mpr ((lt_iff hx hy).mp h).le

theorem lt_trans {z : Float} (hxy : x < y) (hyz : y < z) : x < z := by
  obtain ⟨hx, hy⟩ := isNaN_of_lt hxy
  have hz := (isNaN_of_lt hyz).2
  exact (lt_iff hx hz).mpr (((lt_iff hx hy).mp hxy).trans ((lt_iff hy hz).mp hyz))

theorem beq_iff (hx : x.isNaN = false) (hy : y.isNaN = false) :
    (x == y) = true ↔ rank x = rank y := by
  unfold rank
  rw [← compare_eq_eq_iff hx hy]
  show (x.toModel.unpack.compare y.toModel.unpack == some .eq) = true ↔ _
  exact beq_iff_eq

theorem beq_eq_false_of_lt (h : y < x) : (x == y) = false := by
  obtain ⟨hy, hx⟩ := isNaN_of_lt h
  exact Bool.eq_false_iff.mpr fun heq => ((lt_iff hy hx).mp h).ne' ((beq_iff hx hy).mp heq)

end Priority

end RequestCatalog
