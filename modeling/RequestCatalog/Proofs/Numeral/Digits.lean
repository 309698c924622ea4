import RequestCatalog.Proofs.Numeral.Bits

/-! # The digits of a number

  The numeral of a number is found by trying one digit, two digits and so on. Seventeen digits
  are enough: then the decimal numbers lie closer than the floating-point ones, so one of the two
  neighbours of a number is nearer to it than to any other. What is found has at most seventeen
  digits, and it is at most half of the last binary digit away (`Binary.IsStored.shortest_bounds`).
-/

namespace RequestCatalog

/-! ### Comparing -/

section compare

variable {a : ℕ} {i : ℤ} {n : ℕ} {j : ℤ}

theorem compareScaled_eq_lt_iff :
    compareScaled a i n j = .lt ↔ (a : ℚ) * 10 ^ i < n * 2 ^ j := by
  have htens : (0 : ℚ) < tens (-i) := by exact_mod_cast tens_pos _
  have htwos : (0 : ℚ) < twos (-j) := by exact_mod_cast twos_pos _
  rw [← tens_div_tens, ← twos_div_twos, mul_div_assoc', mul_div_assoc',
    div_lt_div_iff₀ htens htwos]
  unfold compareScaled
  rw [Nat.compare_eq_lt]
  exact_mod_cast Iff.rfl

theorem compareScaled_eq_gt_iff :
    compareScaled a i n j = .gt ↔ (n : ℚ) * 2 ^ j < a * 10 ^ i := by
  have htens : (0 : ℚ) < tens (-i) := by exact_mod_cast tens_pos _
  have htwos : (0 : ℚ) < twos (-j) := by exact_mod_cast twos_pos _
  rw [← tens_div_tens, ← twos_div_twos, mul_div_assoc', mul_div_assoc',
    div_lt_div_iff₀ htwos htens]
  unfold compareScaled
  rw [Nat.compare_eq_gt]
  exact_mod_cast Iff.rfl

end compare

namespace Binary

variable {x : Binary}

/-! ### Neighbours -/

/-- The count is the whole part of the quotient. -/
theorem count_bounds (x : Binary) (power : ℤ) :
    (x.count power : ℚ) * 10 ^ power ≤ x.value ∧
      x.value < (x.count power + 1 : ℕ) * 10 ^ power := by
  have htwos : (0 : ℚ) < twos (-x.q) := by exact_mod_cast twos_pos _
  have htens : (0 : ℚ) < tens (-power) := by exact_mod_cast tens_pos _
  have hpos : 0 < twos (-x.q) * tens power := Nat.mul_pos (twos_pos _) (tens_pos _)
  have hlow : x.count power * (twos (-x.q) * tens power) ≤ x.m * twos x.q * tens (-power) :=
    Nat.div_mul_le_self _ _
  have hhigh : x.m * twos x.q * tens (-power) <
      (x.count power + 1) * (twos (-x.q) * tens power) := by
    rw [Nat.add_one_mul]
    exact Nat.lt_div_mul_add hpos
  unfold value
  rw [← twos_div_twos, ← tens_div_tens, mul_div_assoc', mul_div_assoc', mul_div_assoc',
    div_le_div_iff₀ htens htwos, div_lt_div_iff₀ htwos htens]
  constructor
  · have hcast : (x.count power : ℚ) * (twos (-x.q) * tens power) ≤
        x.m * twos x.q * tens (-power) := by exact_mod_cast hlow
    linarith
  · have hcast : (x.m : ℚ) * twos x.q * tens (-power) <
        (x.count power + 1 : ℕ) * (twos (-x.q) * tens power) := by exact_mod_cast hhigh
    linarith

theorem count_ne_zero_iff (x : Binary) (power : ℤ) :
    x.count power ≠ 0 ↔ 10 ^ power ≤ x.value := by
  obtain ⟨hlow, hhigh⟩ := x.count_bounds power
  have hpos : (0 : ℚ) < 10 ^ power := by positivity
  constructor
  · intro hne
    have hone : (1 : ℚ) ≤ x.count power := by exact_mod_cast Nat.one_le_iff_ne_zero.mpr hne
    nlinarith
  · intro hle hzero
    rw [hzero] at hhigh
    norm_num at hhigh
    linarith

/-- The last binary digit, in quarters. -/
theorem unit_eq (x : Binary) : (2 : ℚ) ^ x.q = 4 * 2 ^ (x.q - 2) ∧
    (2 : ℚ) ^ (x.q - 1) = 2 * 2 ^ (x.q - 2) := by
  have hhalf : (2 : ℚ) ^ (x.q - 1) = 2 * 2 ^ (x.q - 2) := by
    rw [show x.q - 1 = x.q - 2 + 1 by ring, zpow_add_one₀ (by norm_num), mul_comm]
  refine ⟨?_, hhalf⟩
  calc (2 : ℚ) ^ x.q = 2 ^ (x.q - 1) * 2 := by
        rw [← zpow_add_one₀ (by norm_num), sub_add_cancel]
    _ = 4 * 2 ^ (x.q - 2) := by
        rw [hhalf]
        ring

/-- A decimal that is covered is at most half of the last binary digit away. -/
theorem near_of_covers {digits : ℕ} {power : ℤ} (hpos : 0 < x.m)
    (h : x.covers digits power = true) : |(digits : ℚ) * 10 ^ power - x.value| ≤ 2 ^ (x.q - 1) := by
  obtain ⟨hunit, hhalf⟩ := x.unit_eq
  have hquarter : (0 : ℚ) < 2 ^ (x.q - 2) := by positivity
  have hleast : 4 * (x.m : ℚ) - 2 ≤ (if x.narrowBelow then 4 * x.m - 1 else 4 * x.m - 2 : ℕ) := by
    have hless : 4 * x.m ≤ (if x.narrowBelow then 4 * x.m - 1 else 4 * x.m - 2) + 2 := by
      split <;> omega
    rw [sub_le_iff_le_add]
    exact_mod_cast hless
  unfold covers at h
  dsimp only at h
  rw [Bool.and_eq_true] at h
  have hbelow : compareScaled digits power (if x.narrowBelow then 4 * x.m - 1 else 4 * x.m - 2)
      (x.q - 2) ≠ .lt := by
    intro hlt
    simp [hlt] at h
  have habove : compareScaled digits power (4 * x.m + 2) (x.q - 2) ≠ .gt := by
    intro hgt
    simp [hgt] at h
  rw [ne_eq, compareScaled_eq_lt_iff, not_lt] at hbelow
  rw [ne_eq, compareScaled_eq_gt_iff, not_lt] at habove
  push_cast at habove
  have hlow : (4 * (x.m : ℚ) - 2) * 2 ^ (x.q - 2) ≤ digits * 10 ^ power :=
    (mul_le_mul_of_nonneg_right hleast hquarter.le).trans hbelow
  unfold value
  rw [hunit, hhalf, abs_le]
  constructor
  · linarith
  · linarith

/-- What lies between the ends of the interval is covered. -/
theorem covers_of_between {digits : ℕ} {power : ℤ}
    (hlow : ((if x.narrowBelow then 4 * x.m - 1 else 4 * x.m - 2 : ℕ) : ℚ) * 2 ^ (x.q - 2) <
      digits * 10 ^ power)
    (hhigh : (digits : ℚ) * 10 ^ power < (4 * x.m + 2 : ℕ) * 2 ^ (x.q - 2)) :
    x.covers digits power = true := by
  have hbelow := compareScaled_eq_gt_iff.mpr hlow
  have habove := compareScaled_eq_lt_iff.mpr hhigh
  unfold covers
  simp [hbelow, habove]

/-- A neighbour that is found is one of the two around the number, and it is covered. -/
theorem neighbour?_eq_some {power : ℤ} {digits : ℕ} (h : x.neighbour? power = some digits) :
    x.covers digits power = true ∧ digits ≤ x.count power + 1 := by
  unfold neighbour? at h
  dsimp only at h
  split at h
  case h_1 hlow _ =>
    obtain rfl := Option.some.inj h
    exact ⟨hlow, Nat.le_succ _⟩
  case h_2 _ hhigh =>
    obtain rfl := Option.some.inj h
    exact ⟨hhigh, le_rfl⟩
  case h_3 => cases h
  case h_4 hlow hhigh =>
    have hboth : digits = x.count power ∨ digits = x.count power + 1 := by
      split at h
      · exact .inl (Option.some.inj h).symm
      · exact .inr (Option.some.inj h).symm
      · have h := (Option.some.inj h).symm
        split at h
        · exact .inl h
        · exact .inr h
    rcases hboth with rfl | rfl
    · exact ⟨hlow, Nat.le_succ _⟩
    · exact ⟨hhigh, le_rfl⟩

/-- There is one if one of the two is covered. -/
theorem neighbour?_ne_none {power : ℤ} (h : x.covers (x.count power) power = true ∨
    x.covers (x.count power + 1) power = true) : x.neighbour? power ≠ none := by
  unfold neighbour?
  dsimp only
  rcases h with h | h
  · rw [h]
    cases x.covers (x.count power + 1) power with
    | false => simp
    | true =>
      dsimp only
      split <;> simp
  · rw [h]
    cases x.covers (x.count power) power with
    | false => simp
    | true =>
      dsimp only
      split <;> simp

/-! ### The leading digit -/

/-- How small and how large a number can be. -/
theorem IsStored.value_bounds (hx : x.IsStored) (hpos : 0 < x.m) :
    (10 : ℚ) ^ (-324 : ℤ) ≤ x.value ∧ x.value < 10 ^ (309 : ℤ) := by
  have hone : (1 : ℚ) ≤ x.m := by exact_mod_cast hpos
  have hlt : (x.m : ℚ) < (2 ^ 53 : ℕ) := by exact_mod_cast hx.lt
  have hpow : (2 : ℚ) ^ 1074 ≤ 10 ^ 324 := by
    exact_mod_cast (by decide +kernel : 2 ^ 1074 ≤ 10 ^ 324)
  have hmost := pow_two_le hx.most
  constructor
  · calc (10 : ℚ) ^ (-324 : ℤ) ≤ 1 * 2 ^ (-1074 : ℤ) := by
          rw [one_mul]
          exact inv_anti₀ (by positivity) hpow
      _ ≤ x.m * 2 ^ x.q := mul_le_mul hone (pow_two_le hx.least) (by positivity) (by positivity)
  · calc (x.m : ℚ) * 2 ^ x.q < (2 ^ 53 : ℕ) * 2 ^ x.q := by gcongr
      _ ≤ (2 ^ 53 : ℕ) * 2 ^ (971 : ℤ) := by gcongr
      _ ≤ 10 ^ (309 : ℤ) := by
        exact_mod_cast (by decide +kernel : 2 ^ 53 * 2 ^ 971 ≤ 10 ^ 309)

/-- Every number lies above some power of ten that is tried, and below all that are too high. -/
theorem IsStored.leading_bounds (hx : x.IsStored) (hpos : 0 < x.m) :
    10 ^ x.leading ≤ x.value ∧ x.value < 10 ^ (x.leading + 1) := by
  obtain ⟨hlow, hhigh⟩ := hx.value_bounds hpos
  have hdefinition : x.leading =
      (((List.range 640).find? fun n : ℕ => x.count (308 - n) != 0).map
        fun n : ℕ => (308 : ℤ) - n).getD (-324) := by
    unfold leading
    dsimp only
    rw [List.find?_map]
    rfl
  rw [hdefinition]
  cases hfind : (List.range 640).find? fun n : ℕ => x.count (308 - n) != 0 with
  | none =>
    have hzero := List.find?_eq_none.mp hfind 632 (by simp)
    exact absurd ((x.count_ne_zero_iff (-324)).mpr hlow) (by simpa using hzero)
  | some n =>
    obtain ⟨hfound, -, hbefore⟩ := List.find?_range_eq_some.mp hfind
    refine ⟨(x.count_ne_zero_iff _).mp (by simpa using hfound), ?_⟩
    show x.value < 10 ^ ((308 : ℤ) - n + 1)
    rcases Nat.eq_zero_or_pos n with rfl | hn
    · simpa using hhigh
    · have hzero := hbefore (n - 1) (by omega)
      have hnot : ¬ x.count (308 - n + 1) ≠ 0 := by
        rw [show (308 : ℤ) - n + 1 = 308 - (n - 1 : ℕ) by omega]
        simpa using hzero
      rwa [x.count_ne_zero_iff, not_le] at hnot

/-- No leading digit stands behind the 324th place. -/
theorem IsStored.le_leading (hx : x.IsStored) (hpos : 0 < x.m) : -324 ≤ x.leading := by
  have hless := (hx.value_bounds hpos).1.trans_lt (hx.leading_bounds hpos).2
  have hless := (zpow_lt_zpow_iff_right₀ (by norm_num)).mp hless
  omega

/-! ### Seventeen digits -/

/-- Seventeen digits are enough. -/
theorem IsStored.neighbour?_ne_none (hx : x.IsStored) (hpos : 0 < x.m) :
    x.neighbour? (x.leading - 16) ≠ none := by
  obtain ⟨hleading, -⟩ := hx.leading_bounds hpos
  obtain ⟨hlow, hhigh⟩ := x.count_bounds (x.leading - 16)
  obtain ⟨hunit, -⟩ := x.unit_eq
  have hquarter : (0 : ℚ) < 2 ^ (x.q - 2) := by positivity
  have hvalue : x.value = 4 * x.m * 2 ^ (x.q - 2) := by
    unfold value
    rw [hunit]
    ring
  have hstep : (10 : ℚ) ^ (x.leading - 16) * 10 ^ 16 ≤ 4 * x.m * 2 ^ (x.q - 2) := by
    rw [← hvalue, ← zpow_natCast, ← zpow_add₀ (by norm_num)]
    simpa using hleading
  rw [hvalue] at hlow hhigh
  -- the neighbour above is never too low
  have hless : ((if x.narrowBelow then 4 * x.m - 1 else 4 * x.m - 2 : ℕ) : ℚ) * 2 ^ (x.q - 2) <
      (x.count (x.leading - 16) + 1 : ℕ) * 10 ^ (x.leading - 16) := by
    have hle : (if x.narrowBelow then 4 * x.m - 1 else 4 * x.m - 2) ≤ 4 * x.m := by
      split <;> omega
    calc ((if x.narrowBelow then 4 * x.m - 1 else 4 * x.m - 2 : ℕ) : ℚ) * 2 ^ (x.q - 2)
        ≤ (4 * x.m : ℕ) * 2 ^ (x.q - 2) :=
          mul_le_mul_of_nonneg_right (Nat.cast_le.mpr hle) hquarter.le
      _ = 4 * x.m * 2 ^ (x.q - 2) := by push_cast; rfl
      _ < (x.count (x.leading - 16) + 1 : ℕ) * 10 ^ (x.leading - 16) := hhigh
  apply Binary.neighbour?_ne_none
  cases hnarrow : x.narrowBelow with
  | true =>
    -- it is near enough, whatever lies below
    have hm : (x.m : ℚ) = 2 ^ 52 := by exact_mod_cast hx.narrow hnarrow
    right
    refine covers_of_between hless ?_
    push_cast
    rw [hm] at hstep hlow ⊢
    linarith
  | false =>
    have hm : (x.m : ℚ) ≤ 2 ^ 53 := by exact_mod_cast hx.lt.le
    have hstep : (10 : ℚ) ^ (x.leading - 16) < 4 * 2 ^ (x.q - 2) := by
      have := mul_le_mul_of_nonneg_right hm hquarter.le
      linarith
    rcases lt_or_ge ((4 * (x.m : ℚ) - 2) * 2 ^ (x.q - 2))
        ((x.count (x.leading - 16) : ℚ) * 10 ^ (x.leading - 16)) with hnear | hfar
    · left
      refine covers_of_between ?_ ?_
      · rw [if_neg (by simp [hnarrow]), Nat.cast_sub (by omega)]
        push_cast
        exact hnear
      · push_cast
        linarith
    · right
      refine covers_of_between hless ?_
      push_cast
      linarith

/-- The digits of a number have a power of ten that is at most sixteen below the leading one.
    They are at most seventeen, and half of the last binary digit away at most. -/
theorem IsStored.shortest_bounds (hx : x.IsStored) (hpos : 0 < x.m) :
    x.leading - 16 ≤ x.shortest.2 ∧ x.shortest.1 ≤ 10 ^ 17 ∧
      |(x.shortest.1 : ℚ) * 10 ^ x.shortest.2 - x.value| ≤ 2 ^ (x.q - 1) := by
  obtain ⟨-, hleading⟩ := hx.leading_bounds hpos
  have hdefinition : x.shortest = (((List.range 17).findSome? fun n : ℕ =>
      (x.neighbour? (x.leading - n)).map (·, x.leading - n))).getD (0, 0) := by
    unfold shortest
    dsimp only
    rw [List.findSome?_map]
    simp only [Function.comp_def]
  cases hfind : (List.range 17).findSome? fun n : ℕ =>
      (x.neighbour? (x.leading - n)).map (·, x.leading - n) with
  | none =>
    have hnone := List.findSome?_eq_none_iff.mp hfind 16 (by simp)
    exact absurd (Option.map_eq_none_iff.mp hnone) (hx.neighbour?_ne_none hpos)
  | some found =>
    rw [hdefinition, hfind]
    obtain ⟨n, hn, hsome⟩ := List.exists_of_findSome?_eq_some hfind
    obtain ⟨digits, hneighbour, rfl⟩ := Option.map_eq_some_iff.mp hsome
    obtain ⟨hcovers, hdigits⟩ := neighbour?_eq_some hneighbour
    have hn : n < 17 := List.mem_range.mp hn
    refine ⟨?_, ?_, near_of_covers hpos hcovers⟩
    · show x.leading - 16 ≤ x.leading - n
      omega
    · -- there are fewer units than make up the next power of ten
      have hcount := (x.count_bounds (x.leading - n)).1.trans_lt hleading
      have hsplit : (10 : ℚ) ^ (x.leading + 1) = (10 ^ (n + 1) : ℕ) * 10 ^ (x.leading - n) := by
        have hexponent : ((n + 1 : ℕ) : ℤ) + (x.leading - n) = x.leading + 1 := by omega
        rw [Nat.cast_pow, ← zpow_natCast, Nat.cast_ofNat, ← zpow_add₀ (by norm_num), hexponent]
      rw [hsplit] at hcount
      have hless : x.count (x.leading - n) < 10 ^ (n + 1) := by
        exact_mod_cast lt_of_mul_lt_mul_right hcount (by positivity)
      have hpow : 10 ^ (n + 1) ≤ 10 ^ 17 := Nat.pow_le_pow_right (by decide) (by omega)
      exact hdigits.trans (hless.trans_le hpow)

end Binary

end RequestCatalog
