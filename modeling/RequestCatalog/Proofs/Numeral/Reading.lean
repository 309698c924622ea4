import RequestCatalog.Proofs.Numeral.Digits

/-! # Reading digits

  Digits that are read come near to what they are worth. How near, and that they do not become a
  whole number on the way, is shown in three ranges, by what they are worth.

  * From two to the 63rd on, rounding does not lead below this power of two (`le_scaled`).
  * Below three eighths, it leads neither to zero nor to one (`scaled_between`).
  * Between them the power of ten is exact, so there are two roundings only. They would have to
    lead over more than half of the last binary digit to reach a whole number, and they do not:
    no multiple of a power of two lies so little above the powers of ten in question
    (`no_close_multiple`).
-/

namespace RequestCatalog

/-! ### Operations -/

namespace Extended

theorem ofNat_value (n : ℕ) : (ofNat n).value = n := by
  simp [value, ofNat]

theorem isNearest_mul {x y : Extended} (hx : 0 < x.m) (hy : 0 < y.m) :
    IsNearest 64 (-16445) (x.value * y.value) (x.mul y) := by
  have h := isNearest_nearest 64 (-16445) (x.q + y.q) (Nat.mul_pos hx hy) one_pos
  have hexact : ((x.m * y.m : ℕ) : ℚ) / (1 : ℕ) * 2 ^ (x.q + y.q) = x.value * y.value := by
    unfold value
    rw [zpow_add₀ (by norm_num)]
    push_cast
    ring
  rwa [hexact] at h

theorem isNearest_quotient (digits : ℕ) (least : ℤ) {x y : Extended} (hx : 0 < x.m)
    (hy : 0 < y.m) :
    IsNearest digits least (x.value / y.value) (nearest digits least x.m y.m (x.q - y.q)) := by
  have h := isNearest_nearest digits least (x.q - y.q) hx hy
  have hexact : (x.m : ℚ) / y.m * 2 ^ (x.q - y.q) = x.value / y.value := by
    unfold value
    rw [zpow_sub₀ (by norm_num), div_mul_div_comm]
  rwa [hexact] at h

theorem isNearest_narrowed {x : Extended} (hx : 0 < x.m) :
    IsNearest 53 (-1074) x.value (narrowed x.m 1 x.q) := by
  have h := isNearest_nearest 53 (-1074) x.q hx one_pos
  have hexact : (x.m : ℚ) / (1 : ℕ) * 2 ^ x.q = x.value := by
    simp [value]
  rwa [hexact] at h

/-! ### Powers of ten -/

/-- The powers of ten that are used are about right, and the first ones are exact. -/
theorem powerOfTen_units : ∀ digits < 342,
    4 * (10 ^ digits * twos (-(powerOfTen digits).q)) ≤
        5 * ((powerOfTen digits).m * twos (powerOfTen digits).q) ∧
      4 * ((powerOfTen digits).m * twos (powerOfTen digits).q) ≤
        5 * (10 ^ digits * twos (-(powerOfTen digits).q)) ∧
      (digits < 18 → (powerOfTen digits).m * twos (powerOfTen digits).q =
        10 ^ digits * twos (-(powerOfTen digits).q)) := by
  decide +kernel

theorem powerOfTen_bounds {digits : ℕ} (h : digits < 342) :
    (4 : ℚ) / 5 * 10 ^ digits ≤ (powerOfTen digits).value ∧
      (powerOfTen digits).value ≤ 5 / 4 * 10 ^ digits ∧
      (digits < 18 → (powerOfTen digits).value = 10 ^ digits) := by
  obtain ⟨hlow, hhigh, hexact⟩ := powerOfTen_units digits h
  have hpos : (0 : ℚ) < twos (-(powerOfTen digits).q) := by exact_mod_cast twos_pos _
  have hvalue : (powerOfTen digits).value * twos (-(powerOfTen digits).q) =
      (powerOfTen digits).m * twos (powerOfTen digits).q := by
    unfold value
    rw [← twos_div_twos, mul_assoc, div_mul_cancel₀ _ hpos.ne']
  have hlow : (4 : ℚ) * (10 ^ digits * twos (-(powerOfTen digits).q)) ≤
      5 * ((powerOfTen digits).m * twos (powerOfTen digits).q) := by exact_mod_cast hlow
  have hhigh : (4 : ℚ) * ((powerOfTen digits).m * twos (powerOfTen digits).q) ≤
      5 * (10 ^ digits * twos (-(powerOfTen digits).q)) := by exact_mod_cast hhigh
  rw [← hvalue] at hlow hhigh
  refine ⟨?_, ?_, fun hsmall => ?_⟩
  · refine le_of_mul_le_mul_right ?_ hpos
    linarith
  · refine le_of_mul_le_mul_right ?_ hpos
    linarith
  · have hexact : ((powerOfTen digits).m : ℚ) * twos (powerOfTen digits).q =
        10 ^ digits * twos (-(powerOfTen digits).q) := by exact_mod_cast hexact hsmall
    rw [← hvalue] at hexact
    exact mul_right_cancel₀ hpos.ne' hexact

theorem powerOfTen_pos {digits : ℕ} (h : digits < 342) : 0 < (powerOfTen digits).m := by
  have hpos : (0 : ℚ) < 4 / 5 * 10 ^ digits := by positivity
  exact units_pos (hpos.trans_le (powerOfTen_bounds h).1)

end Extended

/-! ### The digits that are read -/

namespace Decimal

/-- What units are worth. -/
def worth (d : ℕ × ℤ) : ℚ := d.1 * 10 ^ d.2

/-- Up to eighteen digits are read as they are. -/
theorem leading_of_le {d : Decimal} (h : d.units < 10 ^ 18) : d.leading =
    (d.units, d.exponent) := by
  have hlength : (Nat.toDigits 10 d.units).length ≤ 18 :=
    (Nat.length_toDigits_le_iff (by decide) (by decide)).mpr h
  have hfirst := Nat.sub_eq_zero_of_le hlength
  have hsecond := Nat.sub_eq_zero_of_le (hlength.trans (show 18 ≤ 19 by decide))
  unfold leading
  dsimp only
  split
  · simp [hfirst]
  · simp [hsecond]

/-- The power of ten is brought nearer to none without a change of what the units are worth. -/
theorem worth_settle (fuel : ℕ) (d : ℕ × ℤ) : worth (settle fuel d) = worth d := by
  induction fuel generalizing d with
  | zero => rfl
  | succ fuel ih =>
    obtain ⟨units, exponent⟩ := d
    unfold settle
    split
    · rw [ih]
      unfold worth
      rw [zpow_sub_one₀ (by norm_num)]
      push_cast
      ring
    · split
      next hdown =>
        rw [ih]
        have hunits : units = 10 * (units / 10) := by omega
        unfold worth
        rw [zpow_add_one₀ (by norm_num)]
        conv_rhs => rw [hunits]
        push_cast
        ring
      · rfl

/-- Zeros are put behind the units until there is no power of ten left, or no room. -/
theorem settle_up {fuel units : ℕ} {exponent : ℤ} (hexponent : 0 ≤ exponent)
    (hfuel : greatestRead < units * 10 ^ fuel) :
    0 ≤ (settle fuel (units, exponent)).2 ∧
      ((settle fuel (units, exponent)).2 = 0 ∨
        greatestRead < (settle fuel (units, exponent)).1) := by
  induction fuel generalizing units exponent with
  | zero => exact ⟨hexponent, .inr (by simpa [settle] using hfuel)⟩
  | succ fuel ih =>
    unfold settle
    split
    next hup =>
      refine ih (by omega) ?_
      rw [pow_succ] at hfuel
      linarith
    next hstay =>
      rw [if_neg (by omega)]
      refine ⟨hexponent, ?_⟩
      show exponent = 0 ∨ greatestRead < units
      omega

/-- Zeros are taken away, and nothing else happens, if the power of ten is negative. -/
theorem settle_down (fuel units : ℕ) {exponent : ℤ} (hexponent : exponent ≤ 0) :
    exponent ≤ (settle fuel (units, exponent)).2 ∧ (settle fuel (units, exponent)).2 ≤ 0 ∧
      (settle fuel (units, exponent)).1 ≤ units := by
  induction fuel generalizing units exponent with
  | zero => exact ⟨le_rfl, hexponent, le_rfl⟩
  | succ fuel ih =>
    unfold settle
    rw [if_neg (by omega)]
    split
    next hdown =>
      have hnext : exponent + 1 ≤ 0 := by omega
      obtain ⟨hlow, hhigh, hunits⟩ := ih (units / 10) hnext
      exact ⟨by omega, hhigh, by omega⟩
    · exact ⟨le_rfl, hexponent, le_rfl⟩

/-! ### Large numbers -/

open Extended

theorem scaled_zero (units : ℕ) : scaled units 0 = (ofNat units).toFloat := by
  unfold scaled
  dsimp only
  rw [if_pos Int.natAbs_zero]

/-- A number in one step. -/
theorem scaled_of_le {units : ℕ} {exponent : ℤ} (hne : exponent ≠ 0)
    (hle : exponent.natAbs ≤ 307) : scaled units exponent =
      (shifted units exponent.natAbs (decide (exponent < 0))).toFloat := by
  unfold scaled
  dsimp only
  rw [if_neg (by omega), if_pos hle]

/-- A number in two steps. -/
theorem scaled_of_lt {units digits : ℕ} (hlow : 307 < digits) (hhigh : digits < 342) :
    let step := shifted units (digits - 308) true
    let near := narrowed step.m 1 step.q
    scaled units (-digits) =
      (narrowed near.m farthest.m (near.q - farthest.q)).packed := by
  have hnegative : decide (-(digits : ℤ) < 0) = true := decide_eq_true (by omega)
  unfold scaled
  dsimp only
  rw [Int.natAbs_neg, Int.natAbs_natCast, hnegative, if_neg (by omega), if_neg (by omega),
    if_pos hhigh, if_pos rfl]

theorem value_toFloat {x : Extended} (hx : 0 < x.m) (hfinite : x.toFloat.isFinite = true) :
    (Binary.ofFloat x.toFloat).value = (narrowed x.m 1 x.q).value :=
  (isNearest_narrowed hx).value_packed hfinite

/-- What is worth two to the 63rd is not read as less. -/
theorem le_scaled {units : ℕ} {exponent : ℤ} (hexponent : 0 ≤ exponent) (hmost : exponent ≤ 307)
    (hunits : exponent = 0 ∨ greatestRead < units) (hworth : 2 ^ 63 ≤ worth (units, exponent))
    (hfinite : (scaled units exponent).isFinite = true) :
    2 ^ 63 ≤ (Binary.ofFloat (scaled units exponent)).value := by
  -- it suffices that the number in 64 digits is large enough
  obtain ⟨step, hstep, hscaled⟩ : ∃ step : Extended, (2 : ℚ) ^ 63 ≤ step.value ∧
      scaled units exponent = step.toFloat := by
    unfold worth at hworth
    obtain ⟨digits, rfl⟩ := Int.eq_ofNat_of_zero_le hexponent
    rcases Nat.eq_zero_or_pos digits with rfl | hdigits
    · exact ⟨ofNat units, by simpa [ofNat_value] using hworth, scaled_zero units⟩
    · have hlarge : greatestRead < units := by omega
      have hlarge : (2 : ℚ) ^ 59 ≤ units := by
        have : 2 ^ 59 ≤ units := le_trans (by decide) hlarge.le
        exact_mod_cast this
      have hfew : digits < 342 := by omega
      have hpos : 0 < (powerOfTen digits).m := powerOfTen_pos hfew
      have hround := isNearest_mul (x := ofNat units) (show 0 < units by omega) hpos
      rw [ofNat_value] at hround
      obtain ⟨hlow, -, hexact⟩ := powerOfTen_bounds hfew
      refine ⟨(ofNat units).mul (powerOfTen digits), ?_, ?_⟩
      · refine hround.pow_le (j := 63) (by decide) (by decide) ?_
        rcases Nat.lt_or_ge 1 digits with hmore | hone
        · have hpow : (10 : ℚ) ^ 2 ≤ 10 ^ digits := pow_le_pow_right₀ (by norm_num) hmore
          have hscale : (2 : ℚ) ^ 4 ≤ (powerOfTen digits).value := by linarith
          calc (2 : ℚ) ^ (63 : ℤ) = 2 ^ 59 * 2 ^ 4 := by norm_num
            _ ≤ units * (powerOfTen digits).value := by gcongr
        · obtain rfl : digits = 1 := by omega
          rw [hexact (by decide)]
          simpa using hworth
      · rw [scaled_of_le (by omega) (by omega), Int.natAbs_natCast]
        have hup : decide ((digits : ℤ) < 0) = false := by simp
        rw [hup]
        rfl
  have hpos : 0 < step.m := units_pos (lt_of_lt_of_le (by norm_num) hstep)
  rw [hscaled] at hfinite ⊢
  rw [value_toFloat hpos hfinite]
  exact (isNearest_narrowed hpos).pow_le (j := 63) (by decide) (by decide) hstep

/-! ### Small numbers -/

/-- A negative power of ten in one step. -/
theorem isNearest_shifted {units digits : ℕ} (hunits : 0 < units) (hdigits : digits < 342) :
    IsNearest 64 (-16445) (units / (powerOfTen digits).value) (shifted units digits true) := by
  have h := isNearest_quotient 64 (-16445) (x := ofNat units) hunits (powerOfTen_pos hdigits)
  rwa [ofNat_value] at h

theorem farthest_bounds : (2 : ℚ) ^ (1023 : ℤ) ≤ farthest.value ∧
    farthest.value ≤ 2 ^ (1024 : ℤ) := by
  have hfarthest : farthest = ⟨5010420900022432, 971⟩ := by decide +kernel
  have hunit : (0 : ℚ) < 2 ^ (971 : ℤ) := by positivity
  have hlow : (2 : ℚ) ^ (1023 : ℤ) = 2 ^ 52 * 2 ^ (971 : ℤ) := by
    rw [← zpow_natCast, ← zpow_add₀ (by norm_num)]
    norm_num
  have hhigh : (2 : ℚ) ^ (1024 : ℤ) = 2 ^ 53 * 2 ^ (971 : ℤ) := by
    rw [← zpow_natCast, ← zpow_add₀ (by norm_num)]
    norm_num
  rw [hfarthest, hlow, hhigh]
  unfold value
  constructor
  · refine mul_le_mul_of_nonneg_right ?_ hunit.le
    norm_num
  · refine mul_le_mul_of_nonneg_right ?_ hunit.le
    norm_num

/-- The second step down from a number that is neither too small nor too large. -/
theorem quotient_between {x : Extended} (hpos : 0 < x.m) (hlow : 2 ^ (-50 : ℤ) ≤ x.value)
    (hhigh : x.value ≤ 2 ^ (57 : ℤ))
    (hfinite : (narrowed x.m farthest.m (x.q - farthest.q)).packed.isFinite = true) :
    0 < (Binary.ofFloat (narrowed x.m farthest.m (x.q - farthest.q)).packed).value ∧
      (Binary.ofFloat (narrowed x.m farthest.m (x.q - farthest.q)).packed).value < 1 := by
  obtain ⟨hfar_low, hfar_high⟩ := farthest_bounds
  have hfar : 0 < farthest.value := lt_of_lt_of_le (by positivity) hfar_low
  have hround := isNearest_quotient 53 (-1074) hpos (units_pos hfar)
  have hlower : (2 : ℚ) ^ (-1074 : ℤ) ≤ x.value / farthest.value := by
    rw [le_div_iff₀ hfar]
    calc (2 : ℚ) ^ (-1074 : ℤ) * farthest.value ≤ 2 ^ (-1074 : ℤ) * 2 ^ (1024 : ℤ) := by gcongr
      _ = 2 ^ (-50 : ℤ) := by
        rw [← zpow_add₀ (by norm_num)]
        norm_num
      _ ≤ x.value := hlow
  have hupper : x.value / farthest.value ≤ (2 : ℚ) ^ (-966 : ℤ) := by
    rw [div_le_iff₀ hfar]
    calc x.value ≤ (2 : ℚ) ^ (57 : ℤ) := hhigh
      _ = 2 ^ (-966 : ℤ) * 2 ^ (1023 : ℤ) := by
        rw [← zpow_add₀ (by norm_num)]
        norm_num
      _ ≤ 2 ^ (-966 : ℤ) * farthest.value := by gcongr
  obtain ⟨-, hlower, hupper⟩ := hround.between (by decide) (by decide) (by decide) hlower hupper
  have hstored := hround.value_packed hfinite
  unfold narrowed at hfinite ⊢
  rw [hstored]
  refine ⟨lt_of_lt_of_le (by positivity) hlower, hupper.trans_lt ?_⟩
  exact zpow_lt_one_of_neg₀ (by norm_num) (by norm_num)

/-- What is worth less than three eighths is read as something between zero and one, if it is not
    too small. -/
theorem scaled_between {units digits : ℕ} (hunits : 0 < units) (hmost : units ≤ 10 ^ 17)
    (hdigits : 0 < digits) (hworth : worth (units, -digits) ≤ 3 / 8)
    (hleast : digits ≤ 307 ∨ digits < 342 ∧ 5 / 4 * 2 ^ (-50 : ℤ) ≤ worth (units, 308 - digits))
    (hfinite : (scaled units (-digits)).isFinite = true) :
    0 < (Binary.ofFloat (scaled units (-digits))).value ∧
      (Binary.ofFloat (scaled units (-digits))).value < 1 := by
  have hone : (1 : ℚ) ≤ units := by exact_mod_cast hunits
  have hnegative : decide (-(digits : ℤ) < 0) = true := by simpa using hdigits
  have habs : (-(digits : ℤ)).natAbs = digits := by simp
  unfold worth at hworth
  rcases Nat.lt_or_ge 307 digits with hfar | hnear
  · -- the number in 64 digits, its rounding, and the quotient of this by the largest power of ten
    obtain ⟨hdigits, hleast⟩ := hleast.resolve_left (by omega)
    have hrest : digits - 308 < 342 := by omega
    obtain ⟨hlow, hhigh, -⟩ := powerOfTen_bounds hrest
    have hstep := isNearest_shifted hunits hrest
    have hten : (1 : ℚ) ≤ 10 ^ (digits - 308) := one_le_pow₀ (by norm_num)
    have hscale : 0 < (powerOfTen (digits - 308)).value := lt_of_lt_of_le (by positivity) hlow
    have hlower : (2 : ℚ) ^ (-50 : ℤ) ≤ units / (powerOfTen (digits - 308)).value := by
      have hcancel : (10 : ℚ) ^ ((308 : ℤ) - digits) * 10 ^ (digits - 308) = 1 := by
        rw [← zpow_natCast, ← zpow_add₀ (by norm_num)]
        simp only [Nat.cast_sub (show 308 ≤ digits by omega)]
        norm_num
      have hworth := mul_le_mul_of_nonneg_right hleast (zero_le_one.trans hten)
      unfold worth at hworth
      dsimp only at hworth
      rw [mul_assoc (units : ℚ), hcancel, mul_one] at hworth
      rw [le_div_iff₀ hscale]
      calc (2 : ℚ) ^ (-50 : ℤ) * (powerOfTen (digits - 308)).value
          ≤ 2 ^ (-50 : ℤ) * (5 / 4 * 10 ^ (digits - 308)) := by gcongr
        _ = 5 / 4 * 2 ^ (-50 : ℤ) * 10 ^ (digits - 308) := by ring
        _ ≤ units := hworth
    have hupper : units / (powerOfTen (digits - 308)).value ≤ (2 : ℚ) ^ (57 : ℤ) := by
      have hscale' : (4 : ℚ) / 5 ≤ (powerOfTen (digits - 308)).value := by linarith
      rw [div_le_iff₀ hscale]
      calc (units : ℚ) ≤ 10 ^ 17 := by exact_mod_cast hmost
        _ ≤ 2 ^ (57 : ℤ) * (4 / 5) := by norm_num
        _ ≤ 2 ^ (57 : ℤ) * (powerOfTen (digits - 308)).value := by gcongr
    obtain ⟨hpos, hlower, hupper⟩ := hstep.between (by decide) (by decide) (by decide) hlower hupper
    obtain ⟨hnear, hlower, hupper⟩ :=
      (isNearest_narrowed hpos).between (by decide) (by decide) (by decide) hlower hupper
    rw [scaled_of_lt hfar hdigits] at hfinite ⊢
    exact quotient_between hnear hlower hupper hfinite
  · have hfew : digits < 342 := by omega
    obtain ⟨hlow, hhigh, -⟩ := powerOfTen_bounds hfew
    have hstep := isNearest_shifted hunits hfew
    have hscale : 0 < (powerOfTen digits).value := lt_of_lt_of_le (by positivity) hlow
    have hten : (0 : ℚ) < 10 ^ digits := by positivity
    rw [zpow_neg, zpow_natCast, ← div_eq_mul_inv, div_le_iff₀ hten] at hworth
    have hlower : (2 : ℚ) ^ (-1021 : ℤ) ≤ units / (powerOfTen digits).value := by
      have hpow : (10 : ℚ) ^ digits ≤ 2 ^ (1020 : ℤ) := by
        have hbound : 10 ^ 307 ≤ 2 ^ 1020 := by decide +kernel
        calc (10 : ℚ) ^ digits ≤ 10 ^ 307 := pow_le_pow_right₀ (by norm_num) hnear
          _ ≤ 2 ^ (1020 : ℤ) := by exact_mod_cast hbound
      have hproduct : (2 : ℚ) ^ (-1021 : ℤ) * 2 ^ (1020 : ℤ) = 1 / 2 := by
        rw [← zpow_add₀ (by norm_num)]
        norm_num
      rw [le_div_iff₀ hscale]
      calc (2 : ℚ) ^ (-1021 : ℤ) * (powerOfTen digits).value
          ≤ 2 ^ (-1021 : ℤ) * (5 / 4 * 2 ^ (1020 : ℤ)) := by
            have hbound : (powerOfTen digits).value ≤ 5 / 4 * 2 ^ (1020 : ℤ) := by linarith
            gcongr
        _ = 5 / 8 := by
            rw [mul_left_comm, hproduct]
            norm_num
        _ ≤ units := by linarith
    have hupper : units / (powerOfTen digits).value ≤ (2 : ℚ) ^ (-1 : ℤ) := by
      rw [div_le_iff₀ hscale]
      norm_num
      linarith
    obtain ⟨hpos, hlower, hupper⟩ := hstep.between (by decide) (by decide) (by decide) hlower hupper
    obtain ⟨-, hlower, hupper⟩ :=
      (isNearest_narrowed hpos).between (by decide) (by decide) (by decide) hlower hupper
    rw [scaled_of_le (by omega) (by omega), hnegative, habs] at hfinite ⊢
    rw [value_toFloat hpos hfinite]
    exact ⟨lt_of_lt_of_le (by positivity) hlower, hupper.trans_lt (by norm_num)⟩

/-! ### Numbers between them -/

/-- No small multiple of a power of two lies a little above a power of ten that is not much larger
    than the power of two. -/
theorem no_close_multiple : ∀ digits < 18, ∀ places < 56, ∀ n < 12,
    2 ≤ places ∧ 10 * 10 ^ digits ≤ 112 * 2 ^ places ∧ 10 ^ digits ≤ n * 2 ^ places →
      2049 * 10 ^ digits < 2048 * (n * 2 ^ places) := by
  decide +kernel

/-- Where a number is not whole, whole numbers are at least one last digit away from it. -/
theorem unit_le_abs_sub {x : Binary} (hq : x.q ≤ 0) {n : ℕ} (hne : x.value ≠ n) :
    2 ^ x.q ≤ |x.value - n| := by
  obtain ⟨units, hunits⟩ := exists_units hq
  have hunit : (0 : ℚ) < 2 ^ x.q := by positivity
  have hn : (n : ℚ) = (n * units : ℕ) * 2 ^ x.q := by
    rw [Nat.cast_mul, mul_assoc, ← hunits]
    simp
  have hdiffer : (x.m : ℤ) - (n * units : ℕ) ≠ 0 := by
    intro heq
    have hsame : x.m = n * units := by omega
    apply hne
    rw [hn, ← hsame]
    rfl
  have hone : (1 : ℚ) ≤ |(x.m : ℚ) - (n * units : ℕ)| := by
    exact_mod_cast Int.one_le_abs hdiffer
  unfold Binary.value
  rw [hn, ← sub_mul, abs_mul, abs_of_pos hunit]
  exact le_mul_of_one_le_left hunit.le hone

/-- Two roundings of a quotient stay near it. -/
theorem abs_scaled_sub_le {x : Binary} (hx : x.IsStored) (hleast : -54 ≤ x.q) {units digits : ℕ}
    (hunits : 0 < units) (hdigits : 0 < digits) (hmost : digits < 18)
    (hnear : |worth (units, -digits) - x.value| ≤ 2 ^ (x.q - 1))
    (hfinite : (scaled units (-digits)).isFinite = true) :
    |(Binary.ofFloat (scaled units (-digits))).value - worth (units, -digits)| ≤
      2 ^ (x.q - 1) + 2 ^ (x.q - 12) := by
  have hfew : digits < 342 := by omega
  have hstep := isNearest_shifted hunits hfew
  have hexact : (units : ℚ) / (powerOfTen digits).value = worth (units, -digits) := by
    rw [(powerOfTen_bounds hfew).2.2 hmost]
    unfold worth
    rw [zpow_neg, zpow_natCast, div_eq_mul_inv]
  rw [hexact] at hstep
  have hhalf : (2 : ℚ) ^ x.q = 2 * 2 ^ (x.q - 1) := by
    rw [zpow_sub_one₀ (by norm_num)]
    ring
  have hpart : (2 : ℚ) ^ (x.q - 1) = 2 ^ 11 * 2 ^ (x.q - 12) := by
    rw [← zpow_natCast, ← zpow_add₀ (by norm_num)]
    congr 1
    norm_num
    ring
  have htop : (2 : ℚ) ^ (x.q + 53) = 2 ^ 53 * 2 ^ x.q := by
    rw [zpow_add₀ (by norm_num), mul_comm]
    norm_num
  have hpos : (0 : ℚ) < 2 ^ (x.q - 12) := by positivity
  -- the number and its neighbour lie below the same power of two
  have hbelow : worth (units, -digits) ≤ 2 ^ (x.q + 53) - 2 ^ (x.q - 1) := by
    have hm : (x.m : ℚ) + 1 ≤ 2 ^ 53 := by exact_mod_cast hx.lt
    have hvalue : x.value + 2 ^ x.q ≤ 2 ^ (x.q + 53) := by
      rw [htop]
      unfold Binary.value
      have := mul_le_mul_of_nonneg_right hm (show (0 : ℚ) ≤ 2 ^ x.q by positivity)
      linarith
    have := (abs_le.mp hnear).2
    linarith
  have hfirst : |(shifted units digits true).value - worth (units, -digits)| ≤ 2 ^ (x.q - 12) := by
    have hunit := hstep.unit_le (j := x.q + 53) (by linarith)
    exact hstep.near.trans (pow_two_le (by omega))
  have hvalue : 0 < (shifted units digits true).value := by
    have hm : (1 : ℚ) ≤ x.m := by
      have := hx.full (by omega)
      exact_mod_cast (by omega : 1 ≤ x.m)
    have hworth := (abs_le.mp hnear).1
    have hless := (abs_le.mp hfirst).1
    have := mul_le_mul_of_nonneg_right hm (show (0 : ℚ) ≤ 2 ^ x.q by positivity)
    unfold Binary.value at hworth
    linarith
  have hround := isNearest_narrowed (units_pos hvalue)
  have hsecond : |(narrowed (shifted units digits true).m 1 (shifted units digits true).q).value -
      (shifted units digits true).value| ≤ 2 ^ (x.q - 1) := by
    have hless : (shifted units digits true).value < 2 ^ (x.q + 53) := by
      have := (abs_le.mp hfirst).2
      linarith
    have hunit := hround.unit_le hless
    exact hround.near.trans (pow_two_le (by omega))
  have hnegative : decide (-(digits : ℤ) < 0) = true := decide_eq_true (by omega)
  rw [scaled_of_le (by omega) (by omega), hnegative, Int.natAbs_neg, Int.natAbs_natCast]
    at hfinite ⊢
  rw [value_toFloat (units_pos hvalue) hfinite]
  exact (abs_sub_le _ _ _).trans (add_le_add hsecond hfirst)

/-- What is not whole is not read as a whole number. -/
theorem scaled_ne_natCast {x : Binary} (hx : x.IsStored) (hleast : -54 ≤ x.q) (hq : x.q < 0)
    (hwhole : ∀ n : ℕ, x.value ≠ n) {units digits : ℕ} (hunits : 0 < units)
    (hmost : units ≤ 10 ^ 17) (hdigits : 0 < digits) (hfew : digits < 18)
    (hnear : |worth (units, -digits) - x.value| ≤ 2 ^ (x.q - 1))
    (hfinite : (scaled units (-digits)).isFinite = true) (n : ℕ) :
    (Binary.ofFloat (scaled units (-digits))).value ≠ n := by
  intro heq
  have hclose := abs_scaled_sub_le hx hleast hunits hdigits hfew hnear hfinite
  rw [heq] at hclose
  -- in the scale in which half of the last digit is one
  obtain ⟨places, hplaces⟩ : ∃ places : ℕ, (places : ℤ) = 1 - x.q :=
    ⟨(1 - x.q).toNat, by omega⟩
  have hscale : (0 : ℚ) < 2 ^ places := by positivity
  have hhalf : (2 : ℚ) ^ (x.q - 1) * 2 ^ places = 1 := by
    rw [← zpow_natCast, ← zpow_add₀ (by norm_num), hplaces]
    simp
  have hpart : (2 : ℚ) ^ (x.q - 12) * 2 ^ places = 1 / 2048 := by
    rw [← zpow_natCast, ← zpow_add₀ (by norm_num), hplaces]
    rw [show x.q - 12 + (1 - x.q) = -11 by ring]
    norm_num
  have hunit : (2 : ℚ) ^ x.q = 2 * 2 ^ (x.q - 1) := by
    rw [zpow_sub_one₀ (by norm_num)]
    ring
  have hten : (0 : ℚ) < 10 ^ digits := by positivity
  have hworth : worth (units, -digits) * 10 ^ digits = units := by
    unfold worth
    rw [zpow_neg, zpow_natCast, inv_mul_cancel_right₀ hten.ne']
  -- the distance from the whole number, in units
  have hfar : (2 : ℚ) ^ (x.q - 1) ≤ |n - worth (units, -digits)| := by
    have hdistance := unit_le_abs_sub hq.le (hwhole n)
    have htriangle := abs_sub_le x.value (worth (units, -digits)) n
    rw [abs_sub_comm x.value (worth _), abs_sub_comm (worth _) (n : ℚ)] at htriangle
    linarith
  obtain ⟨distance, hdistance⟩ : ∃ distance : ℕ,
      (distance : ℚ) = |n - worth (units, -digits)| * 10 ^ digits := by
    refine ⟨((n * 10 ^ digits : ℕ) - units : ℤ).natAbs, ?_⟩
    rw [Nat.cast_natAbs, ← abs_of_pos hten, ← abs_mul, sub_mul, hworth]
    push_cast
    rfl
  have hlow : (10 : ℚ) ^ digits ≤ distance * 2 ^ places := by
    have := mul_le_mul_of_nonneg_right hfar hscale.le
    rw [hhalf] at this
    rw [hdistance, mul_right_comm]
    exact le_mul_of_one_le_left hten.le this
  have hhigh : 2048 * ((distance : ℚ) * 2 ^ places) ≤ 2049 * 10 ^ digits := by
    have := mul_le_mul_of_nonneg_right hclose hscale.le
    rw [add_mul, hhalf, hpart] at this
    have := mul_le_mul_of_nonneg_right this hten.le
    rw [hdistance, mul_right_comm]
    linarith
  have hratio : 10 * (10 : ℚ) ^ digits ≤ 112 * 2 ^ places := by
    have hm : (2 : ℚ) ^ 52 ≤ x.m := by exact_mod_cast hx.full (by omega)
    have hless : (units : ℚ) ≤ 10 ^ 17 := by exact_mod_cast hmost
    have hvalue : (2 : ℚ) ^ 52 * 2 ^ x.q ≤ x.value :=
      mul_le_mul_of_nonneg_right hm (by positivity)
    have hlower : (2 ^ 53 - 1) * (2 : ℚ) ^ (x.q - 1) ≤ worth (units, -digits) := by
      have := (abs_le.mp hnear).1
      linarith
    have hscaled := mul_le_mul_of_nonneg_right
      (mul_le_mul_of_nonneg_right hlower hscale.le) hten.le
    rw [mul_assoc (2 ^ 53 - 1 : ℚ), hhalf, mul_one, mul_right_comm, hworth] at hscaled
    have := mul_le_mul_of_nonneg_right hless hscale.le
    linarith
  have hfewer : distance < 12 := by
    have : (distance : ℚ) * 2 ^ places < 12 * 2 ^ places := by linarith
    exact_mod_cast lt_of_mul_lt_mul_right this hscale.le
  have hnone := no_close_multiple digits hfew places (by omega) distance hfewer
    ⟨by omega, by exact_mod_cast hratio, by exact_mod_cast hlow⟩
  have hsome : 2048 * (distance * 2 ^ places) ≤ 2049 * 10 ^ digits := by exact_mod_cast hhigh
  omega

end Decimal

end RequestCatalog
