import Mathlib
import RequestCatalog.Decimal.Approximate

/-! # Rounding to binary digits

  A rounded number is told by two facts about the exact one. It is at most half of its last
  binary digit away from it, and the last digit stands where the number of digits or the least
  unit puts it (`IsNearest`). From these follows what is used of rounding elsewhere: a power of
  two is never crossed (`IsNearest.pow_le`, `IsNearest.le_pow`), and below a power of two the
  error is small (`IsNearest.unit_le`).
-/

namespace RequestCatalog

/-! ### Powers -/

/-- One of the two powers is always one. -/
theorem toNat_pow_div_pow (b : ℚ) (power : ℤ) :
    b ^ power.toNat / b ^ (-power).toNat = b ^ power := by
  rcases le_total 0 power with h | h
  · obtain ⟨n, rfl⟩ := Int.eq_ofNat_of_zero_le h
    simp
  · obtain ⟨n, hn⟩ := Int.eq_ofNat_of_zero_le (neg_nonneg.mpr h)
    obtain rfl : power = -n := by omega
    simp

theorem twos_div_twos (power : ℤ) : (twos power : ℚ) / twos (-power) = 2 ^ power := by
  rw [← toNat_pow_div_pow]
  unfold twos
  rw [Nat.pow_eq, Nat.pow_eq, Nat.cast_pow, Nat.cast_pow, Nat.cast_ofNat]

theorem tens_div_tens (power : ℤ) : (tens power : ℚ) / tens (-power) = 10 ^ power := by
  rw [← toNat_pow_div_pow]
  unfold tens
  rw [Nat.pow_eq, Nat.pow_eq, Nat.cast_pow, Nat.cast_pow, Nat.cast_ofNat]

theorem twos_pos (power : ℤ) : 0 < twos power := Nat.pow_pos (by decide)

theorem tens_pos (power : ℤ) : 0 < tens power := Nat.pow_pos (by decide)

theorem pow_two_le {i j : ℤ} (h : i ≤ j) : (2 : ℚ) ^ i ≤ 2 ^ j :=
  zpow_le_zpow_right₀ (by norm_num) h

theorem lt_of_pow_two_lt {i j : ℤ} (h : (2 : ℚ) ^ i < 2 ^ j) : i < j :=
  (zpow_lt_zpow_iff_right₀ (by norm_num)).mp h

/-- Up to a power, a power of two is a whole number of units. -/
theorem exists_units {i j : ℤ} (h : i ≤ j) : ∃ n : ℕ, (2 : ℚ) ^ j = n * 2 ^ i := by
  obtain ⟨n, hn⟩ := Int.eq_ofNat_of_zero_le (sub_nonneg.mpr h)
  refine ⟨2 ^ n, ?_⟩
  push_cast
  rw [← zpow_natCast, ← zpow_add₀ (by norm_num)]
  congr 1
  omega

/-! ### Nearest whole numbers -/

/-- The nearest whole number is at most one half away. -/
theorem nearestQuotient_bounds (a : ℕ) {b : ℕ} (hb : 0 < b) :
    2 * a ≤ 2 * (nearestQuotient a b * b) + b ∧ 2 * (nearestQuotient a b * b) ≤ 2 * a + b := by
  have hsplit := Nat.div_add_mod' a b
  have hrest := Nat.mod_lt a hb
  unfold nearestQuotient
  dsimp only
  split
  case h_1 h =>
    have h : 2 * (a % b) < b := Nat.compare_eq_lt.mp h
    omega
  case h_2 h =>
    have h : 2 * (a % b) = b := Nat.compare_eq_eq.mp h
    rcases Nat.mod_two_eq_zero_or_one (a / b) with heven | hodd
    · rw [heven, Nat.add_zero]
      omega
    · rw [hodd, Nat.add_mul]
      omega
  case h_3 h =>
    have h : b < 2 * (a % b) := Nat.compare_eq_gt.mp h
    rw [Nat.add_mul]
    omega

theorem abs_nearestQuotient_sub_le (a : ℕ) {b : ℕ} (hb : 0 < b) :
    |(nearestQuotient a b : ℚ) - a / b| ≤ 1 / 2 := by
  obtain ⟨hlow, hhigh⟩ := nearestQuotient_bounds a hb
  have hb' : (0 : ℚ) < b := by exact_mod_cast hb
  have hlow' : 2 * (a : ℚ) ≤ 2 * (nearestQuotient a b * b) + b := by exact_mod_cast hlow
  have hhigh' : 2 * ((nearestQuotient a b : ℚ) * b) ≤ 2 * a + b := by exact_mod_cast hhigh
  rw [abs_le]
  constructor
  · rw [le_sub_iff_add_le, ← sub_eq_neg_add, sub_le_iff_le_add, div_le_iff₀ hb']
    linarith
  · rw [sub_le_iff_le_add, ← sub_le_iff_le_add', le_div_iff₀ hb']
    linarith

/-! ### Rounded numbers -/

namespace Extended

/-- What a number is worth. -/
def value (x : Extended) : ℚ := x.m * 2 ^ x.q

/-- The number is the exact one, rounded to so many binary digits, none of them worth less than
    two to the `least`. -/
structure IsNearest (digits : ℕ) (least : ℤ) (v : ℚ) (x : Extended) : Prop where
  /-- The error is at most half of the last digit. -/
  near : |x.value - v| ≤ 2 ^ (x.q - 1)
  /-- The place of the last digit. -/
  unit : ∃ leading : ℤ, 2 ^ leading ≤ v ∧ v < 2 ^ (leading + 1) ∧
    x.q = max (leading - (digits - 1)) least

/-- The leading digit of a quotient. -/
theorem exists_leading {a b : ℕ} (ha : 0 < a) (hb : 0 < b) :
    let guess : ℤ := (a.log2 : ℤ) - b.log2
    let leading := if a * twos (-guess) < b * twos guess then guess - 1 else guess
    (2 : ℚ) ^ leading ≤ a / b ∧ (a : ℚ) / b < 2 ^ (leading + 1) := by
  intro guess leading
  have ha' : (0 : ℚ) < a := by exact_mod_cast ha
  have hb' : (0 : ℚ) < b := by exact_mod_cast hb
  have hlow_a : (2 : ℚ) ^ (a.log2 : ℤ) ≤ a := by
    exact_mod_cast Nat.log2_self_le ha.ne'
  have hhigh_a : (a : ℚ) < 2 ^ ((a.log2 : ℤ) + 1) := by
    exact_mod_cast Nat.lt_log2_self (n := a)
  have hlow_b : (2 : ℚ) ^ (b.log2 : ℤ) ≤ b := by
    exact_mod_cast Nat.log2_self_le hb.ne'
  have hhigh_b : (b : ℚ) < 2 ^ ((b.log2 : ℤ) + 1) := by
    exact_mod_cast Nat.lt_log2_self (n := b)
  -- the guess is too high by one at most
  have hlow : (2 : ℚ) ^ (guess - 1) ≤ a / b := by
    rw [le_div_iff₀ hb']
    calc (2 : ℚ) ^ (guess - 1) * b ≤ 2 ^ (guess - 1) * 2 ^ ((b.log2 : ℤ) + 1) := by gcongr
      _ = 2 ^ (a.log2 : ℤ) := by
        rw [← zpow_add₀ (by norm_num)]
        congr 1
        omega
      _ ≤ a := hlow_a
  have hhigh : (a : ℚ) / b < 2 ^ (guess + 1) := by
    rw [div_lt_iff₀ hb']
    calc (a : ℚ) < 2 ^ ((a.log2 : ℤ) + 1) := hhigh_a
      _ = 2 ^ (guess + 1) * 2 ^ (b.log2 : ℤ) := by
        rw [← zpow_add₀ (by norm_num)]
        congr 1
        omega
      _ ≤ 2 ^ (guess + 1) * b := by gcongr
  have hcompare : a * twos (-guess) < b * twos guess ↔ (a : ℚ) / b < 2 ^ guess := by
    have hpos : (0 : ℚ) < twos (-guess) := by exact_mod_cast twos_pos _
    rw [← twos_div_twos guess, div_lt_div_iff₀ hb' hpos, mul_comm (twos guess : ℚ)]
    exact_mod_cast Iff.rfl
  by_cases hless : a * twos (-guess) < b * twos guess
  · have hleading : leading = guess - 1 := if_pos hless
    rw [hleading]
    exact ⟨hlow, by simpa using hcompare.mp hless⟩
  · have hleading : leading = guess := if_neg hless
    rw [hleading]
    exact ⟨not_lt.mp fun h => hless (hcompare.mpr h), hhigh⟩

/-- Rounding finds the nearest number. -/
theorem isNearest_nearest (digits : ℕ) (least : ℤ) {a b : ℕ} (q : ℤ) (ha : 0 < a) (hb : 0 < b) :
    IsNearest digits least (a / b * 2 ^ q) (nearest digits least a b q) := by
  obtain ⟨hlow, hhigh⟩ := exists_leading ha hb
  unfold nearest
  dsimp only at hlow hhigh ⊢
  generalize (if a * twos (-((a.log2 : ℤ) - b.log2)) < b * twos ((a.log2 : ℤ) - b.log2) then
    (a.log2 : ℤ) - b.log2 - 1 else (a.log2 : ℤ) - b.log2) = leading at hlow hhigh ⊢
  have hq : (0 : ℚ) < 2 ^ q := by positivity
  refine ⟨?_, leading + q, ?_, ?_, rfl⟩
  · generalize max (leading + q - ((digits : ℤ) - 1)) least = unit
    have hdivisor : 0 < b * twos (unit - q) := Nat.mul_pos hb (twos_pos _)
    have hnear := abs_nearestQuotient_sub_le (a * twos (q - unit)) hdivisor
    have hexact : ((a * twos (q - unit) : ℕ) : ℚ) / ((b * twos (unit - q) : ℕ) : ℚ) * 2 ^ unit =
        a / b * 2 ^ q := by
      have hneg : unit - q = -(q - unit) := by ring
      push_cast
      rw [hneg, mul_div_mul_comm, twos_div_twos, mul_assoc, ← zpow_add₀ (by norm_num)]
      congr 2
      ring
    have hunit : (0 : ℚ) < 2 ^ unit := by positivity
    unfold value
    rw [← hexact, ← sub_mul, abs_mul, abs_of_pos hunit, zpow_sub_one₀ (by norm_num), mul_comm]
    rw [one_div] at hnear
    exact mul_le_mul_of_nonneg_left hnear hunit.le
  · rw [zpow_add₀ (by norm_num)]
    gcongr
  · rw [add_right_comm, zpow_add₀ (by norm_num)]
    gcongr

theorem units_pos {x : Extended} (h : 0 < x.value) : 0 < x.m := by
  rcases Nat.eq_zero_or_pos x.m with hzero | hpos
  · simp [value, hzero] at h
  · exact hpos

namespace IsNearest

variable {digits : ℕ} {least : ℤ} {v : ℚ} {x : Extended}

/-- What is worth a whole number of units is not crossed. -/
theorem units_le (h : IsNearest digits least v x) {n : ℕ} (hn : n * 2 ^ x.q ≤ v) :
    n * 2 ^ x.q ≤ x.value := by
  have hunit : (0 : ℚ) < 2 ^ x.q := by positivity
  have hnear := (abs_le.mp h.near).1
  rw [zpow_sub_one₀ (by norm_num)] at hnear
  unfold value at hnear ⊢
  have hless : (n : ℚ) * 2 ^ x.q < (x.m + 1) * 2 ^ x.q := by linarith
  have hcast : (n : ℚ) < (x.m + 1 : ℕ) := by
    push_cast
    exact lt_of_mul_lt_mul_right hless hunit.le
  have hle : n ≤ x.m := Nat.lt_succ_iff.mp (Nat.cast_lt.mp hcast)
  gcongr

theorem le_units (h : IsNearest digits least v x) {n : ℕ} (hn : v ≤ n * 2 ^ x.q) :
    x.value ≤ n * 2 ^ x.q := by
  have hunit : (0 : ℚ) < 2 ^ x.q := by positivity
  have hnear := (abs_le.mp h.near).2
  rw [zpow_sub_one₀ (by norm_num)] at hnear
  unfold value at hnear ⊢
  have hless : (x.m : ℚ) * 2 ^ x.q < (n + 1) * 2 ^ x.q := by linarith
  have hcast : (x.m : ℚ) < (n + 1 : ℕ) := by
    push_cast
    exact lt_of_mul_lt_mul_right hless hunit.le
  have hle : x.m ≤ n := Nat.lt_succ_iff.mp (Nat.cast_lt.mp hcast)
  gcongr

/-- A power of two that is at most the exact number is at most the rounded one. -/
theorem pow_le (h : IsNearest digits least v x) (hdigits : 0 < digits) {j : ℤ} (hleast : least ≤ j)
    (hj : 2 ^ j ≤ v) : 2 ^ j ≤ x.value := by
  obtain ⟨leading, hlow, hhigh, hunit⟩ := h.unit
  have hleading : j ≤ leading := by
    have := lt_of_pow_two_lt (hj.trans_lt hhigh)
    omega
  obtain ⟨n, hn⟩ : ∃ n : ℕ, (2 : ℚ) ^ leading = n * 2 ^ x.q := exists_units (by omega)
  calc (2 : ℚ) ^ j ≤ 2 ^ leading := pow_two_le hleading
    _ = n * 2 ^ x.q := hn
    _ ≤ x.value := h.units_le (hn ▸ hlow)

/-- A power of two that is at least the exact number is at least the rounded one. -/
theorem le_pow (h : IsNearest digits least v x) (hdigits : 0 < digits) {j : ℤ} (hleast : least ≤ j)
    (hj : v ≤ 2 ^ j) : x.value ≤ 2 ^ j := by
  obtain ⟨leading, hlow, hhigh, hunit⟩ := h.unit
  have hleading : leading ≤ j := (zpow_le_zpow_iff_right₀ (by norm_num)).mp (hlow.trans hj)
  obtain ⟨n, hn⟩ : ∃ n : ℕ, (2 : ℚ) ^ j = n * 2 ^ x.q := exists_units (by omega)
  rw [hn]
  exact h.le_units (hn ▸ hj)

/-- Between two powers of two a number stays. -/
theorem between (h : IsNearest digits least v x) (hdigits : 0 < digits) {i j : ℤ}
    (hi : least ≤ i) (hj : least ≤ j) (hlow : 2 ^ i ≤ v) (hhigh : v ≤ 2 ^ j) :
    0 < x.m ∧ 2 ^ i ≤ x.value ∧ x.value ≤ 2 ^ j := by
  have hvalue := h.pow_le hdigits hi hlow
  exact ⟨units_pos (lt_of_lt_of_le (by positivity) hvalue), hvalue, h.le_pow hdigits hj hhigh⟩

/-- The last digit of a number below a power of two. -/
theorem unit_le (h : IsNearest digits least v x) {j : ℤ} (hj : v < 2 ^ j) :
    x.q ≤ max (j - digits) least := by
  obtain ⟨leading, hlow, -, hunit⟩ := h.unit
  have hleading := lt_of_pow_two_lt (hlow.trans_lt hj)
  omega

/-- The units take up the digits, where they are not the least ones. -/
theorem units_bounds (h : IsNearest digits least v x) (hdigits : 0 < digits) :
    x.m ≤ 2 ^ digits ∧ least ≤ x.q ∧ (least < x.q → 2 ^ (digits - 1) ≤ x.m) := by
  obtain ⟨leading, hlow, hhigh, hunit⟩ := h.unit
  have hpos : (0 : ℚ) < 2 ^ x.q := by positivity
  have hgrid : ∀ n : ℕ, (2 : ℚ) ^ (x.q + n) = (2 ^ n : ℕ) * 2 ^ x.q := by
    intro n
    rw [zpow_add₀ (by norm_num), mul_comm]
    push_cast
    rw [zpow_natCast]
  refine ⟨?_, by omega, fun hless => ?_⟩
  · have hle : x.value ≤ (2 ^ digits : ℕ) * 2 ^ x.q := by
      refine h.le_units (hhigh.le.trans ?_)
      rw [← hgrid]
      exact pow_two_le (by omega)
    exact_mod_cast le_of_mul_le_mul_right hle hpos
  · have hle : (2 ^ (digits - 1) : ℕ) * 2 ^ x.q ≤ x.value := by
      refine h.units_le ?_
      rw [← hgrid]
      exact (pow_two_le (by omega)).trans hlow
    exact_mod_cast le_of_mul_le_mul_right hle hpos

end IsNearest

end Extended

end RequestCatalog
