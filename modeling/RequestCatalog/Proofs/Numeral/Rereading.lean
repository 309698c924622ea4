import RequestCatalog.Proofs.Numeral.Reading

/-! # The numeral of a number, read again

  What a free-form column reads for the numeral of a number may lie next to the number. But it is
  not worth a small whole number, unless the number is (`Number.tidy_approximate_numeral`). The
  digits of the numeral name the number, that is, they are at most half of its last binary digit
  away from it (`Decimal.Names`). This is enough for every number but the two smallest ones and
  two to the 63rd, and for these three the digits are worked out.
-/

namespace RequestCatalog

namespace Decimal

open Extended

/-- At most seventeen digits, at most half of the last binary digit of the number away from it,
    that do not reach further down than the seventeenth digit of the number. -/
structure Names (d : ℕ × ℤ) (x : Binary) : Prop where
  /-- They are near. -/
  near : |worth d - x.value| ≤ 2 ^ (x.q - 1)
  /-- They are few. -/
  most : d.1 ≤ 10 ^ 17
  /-- The last one is not too far down. -/
  least : x.leading - 16 ≤ d.2

variable {x : Binary} {d : ℕ × ℤ}

theorem names_shortest (hx : x.IsStored) (hpos : 0 < x.m) : Names x.shortest x := by
  obtain ⟨hleast, hmost, hnear⟩ := hx.shortest_bounds hpos
  exact ⟨hnear, hmost, hleast⟩

/-! ### What the digits are worth -/

theorem worth_pos_iff {units : ℕ} {exponent : ℤ} : 0 < worth (units, exponent) ↔ 0 < units := by
  have hpow : (0 : ℚ) < 10 ^ exponent := by positivity
  unfold worth
  rw [mul_pos_iff_of_pos_right hpow, Nat.cast_pos]

/-- The digits are worth between half and three halves of the number. -/
theorem Names.worth_bounds (h : Names d x) (hpos : 0 < x.m) :
    0 < worth d ∧ x.value / 2 ≤ worth d ∧ worth d ≤ 3 / 2 * x.value := by
  have hnear := h.near
  have hm : (1 : ℚ) ≤ x.m := by exact_mod_cast hpos
  have hunit : (0 : ℚ) < 2 ^ x.q := by positivity
  have hvalue : (2 : ℚ) ^ x.q ≤ x.value := le_mul_of_one_le_left hunit.le hm
  rw [zpow_sub_one₀ (by norm_num)] at hnear
  obtain ⟨hlow, hhigh⟩ := abs_le.mp hnear
  exact ⟨by linarith, by linarith, by linarith⟩

/-- The digits of a large number are worth a large number. -/
theorem le_worth_shortest (hx : x.IsStored) (hlarge : 2 ^ 63 ≤ x.value) :
    2 ^ 63 ≤ worth x.shortest := by
  have hunit : (0 : ℚ) < 2 ^ x.q := by positivity
  have hq : 11 ≤ x.q := by
    have hless : (2 : ℚ) ^ (63 : ℤ) < 2 ^ (x.q + 53) := lt_of_le_of_lt hlarge hx.value_lt
    have := lt_of_pow_two_lt hless
    omega
  have hfull := hx.full (by omega)
  have hnear := (names_shortest hx (by omega)).near
  rw [zpow_sub_one₀ (by norm_num)] at hnear
  have hlow := (abs_le.mp hnear).1
  rcases lt_or_ge (2 ^ 52) x.m with hmore | hleast
  · -- the number below is not less than two to the 63rd
    have hmore : (2 : ℚ) ^ 52 + 1 ≤ x.m := by exact_mod_cast hmore
    have hpow : (2 : ℚ) ^ (11 : ℤ) ≤ 2 ^ x.q := pow_two_le hq
    have hvalue : (2 ^ 52 + 1) * (2 : ℚ) ^ x.q ≤ x.value :=
      mul_le_mul_of_nonneg_right hmore hunit.le
    norm_num at hpow
    linarith
  · have hm : x.m = 2 ^ 52 := le_antisymm hleast hfull
    rcases hq.lt_or_eq with hmore | hq
    · have hpow : (2 : ℚ) ^ (12 : ℤ) ≤ 2 ^ x.q := pow_two_le hmore
      have hvalue : x.value = 2 ^ 52 * 2 ^ x.q := by
        unfold Binary.value
        rw [hm]
        norm_num
      norm_num at hpow
      linarith
    · -- two to the 63rd itself
      obtain ⟨m, q, narrow⟩ := x
      obtain rfl : m = 2 ^ 52 := hm
      obtain rfl : (11 : ℤ) = q := hq
      have hshortest : Binary.shortest ⟨2 ^ 52, 11, narrow⟩ = (9223372036854776, 3) := by
        cases narrow <;> decide +kernel
      rw [hshortest]
      norm_num [worth]

/-- Digits that name what is not whole are not worth a whole number. -/
theorem Names.worth_ne (h : Names d x) (hq : x.q ≤ 0) (hwhole : ∀ n : ℕ, x.value ≠ n) (n : ℕ) :
    worth d ≠ n := by
  intro heq
  have hnear := h.near
  have hfar := unit_le_abs_sub hq (hwhole n)
  have hunit : (0 : ℚ) < 2 ^ x.q := by positivity
  rw [zpow_sub_one₀ (by norm_num)] at hnear
  rw [abs_sub_comm, ← heq] at hfar
  linarith

/-- What is not whole has a last binary digit behind the point. -/
theorem exponent_neg (hwhole : ∀ n : ℕ, x.value ≠ n) : x.q < 0 := by
  by_contra hpositive
  obtain ⟨places, hplaces⟩ := Int.eq_ofNat_of_zero_le (not_lt.mp hpositive)
  apply hwhole (x.m * 2 ^ places)
  unfold Binary.value
  rw [hplaces]
  push_cast
  rw [zpow_natCast]

/-! ### Where the power of ten is settled -/

section settled

variable {units units' : ℕ} {exponent exponent' : ℤ}
  (hsettle : settle 20 (units, exponent) = (units', exponent'))
include hsettle

theorem worth_settled : worth (units', exponent') = worth (units, exponent) := by
  rw [← hsettle, worth_settle]

/-- A large number has no power of ten left, or there is no room for more digits. -/
theorem settled_large (hmost : units ≤ 10 ^ 17) (hlow : 2 ^ 63 ≤ worth (units, exponent))
    (hhigh : worth (units, exponent) < 10 ^ (310 : ℤ)) : 0 ≤ exponent' ∧ exponent' ≤ 307 ∧
      (exponent' = 0 ∨ greatestRead < units') := by
  have hunits : 0 < units := worth_pos_iff.mp (lt_of_lt_of_le (by norm_num) hlow)
  -- seventeen digits do not make up the size, so there is a power of ten
  have hexponent : 0 ≤ exponent := by
    by_contra hnegative
    have hone : (10 : ℚ) ^ exponent ≤ 1 := zpow_le_one_of_nonpos₀ (by norm_num) (by omega)
    have hless : (units : ℚ) ≤ 10 ^ 17 := by exact_mod_cast hmost
    have hbound : worth (units, exponent) ≤ 10 ^ 17 * 1 :=
      mul_le_mul hless hone (by positivity) (by norm_num)
    linarith
  have hfuel : greatestRead < units * 10 ^ 20 := by
    have hone : greatestRead < 1 * 10 ^ 20 := by decide
    exact hone.trans_le (Nat.mul_le_mul_right _ hunits)
  obtain ⟨hup, hroom⟩ := settle_up hexponent hfuel
  rw [hsettle] at hup hroom
  refine ⟨hup, ?_, hroom⟩
  by_contra hfar
  have hlarge : (10 : ℚ) ^ 17 ≤ units' := by
    have hroom : greatestRead < units' := hroom.resolve_left fun hzero => by omega
    have hbound : 10 ^ 17 ≤ units' := le_trans (by decide) hroom.le
    exact_mod_cast hbound
  have hpow : (10 : ℚ) ^ (308 : ℤ) ≤ 10 ^ exponent' :=
    zpow_le_zpow_right₀ (by norm_num) (by omega)
  have hbound : (10 : ℚ) ^ 17 * 10 ^ (308 : ℤ) ≤ worth (units', exponent') :=
    mul_le_mul hlarge hpow (by positivity) (by positivity)
  have hten : (10 : ℚ) ^ (310 : ℤ) = 10 ^ 2 * 10 ^ (308 : ℤ) := by
    rw [← zpow_natCast, ← zpow_add₀ (by norm_num)]
    norm_num
  rw [worth_settled hsettle] at hbound
  rw [hten] at hhigh
  have hless : (10 : ℚ) ^ 17 < 10 ^ 2 :=
    lt_of_mul_lt_mul_right (hbound.trans_lt hhigh) (by positivity)
  norm_num at hless

/-- Digits that are not worth a whole number have a point among them. -/
theorem settled_fraction (hwhole : ∀ n : ℕ, worth (units, exponent) ≠ n) :
    0 < units' ∧ units' ≤ units ∧
      ∃ digits : ℕ, exponent' = -digits ∧ 0 < digits ∧ (digits : ℤ) ≤ -exponent := by
  have hexponent : exponent < 0 := by
    by_contra hpositive
    obtain ⟨n, rfl⟩ := Int.eq_ofNat_of_zero_le (not_lt.mp hpositive)
    apply hwhole (units * 10 ^ n)
    unfold worth
    push_cast
    rw [zpow_natCast]
  obtain ⟨hlow, hhigh, hunits⟩ := settle_down 20 units hexponent.le
  rw [hsettle] at hlow hhigh hunits
  rw [← worth_settled hsettle] at hwhole
  obtain ⟨digits, hdigits⟩ := Int.eq_ofNat_of_zero_le (neg_nonneg.mpr hhigh)
  refine ⟨?_, hunits, digits, by omega, ?_, by omega⟩
  · refine Nat.pos_of_ne_zero fun hzero => hwhole 0 ?_
    unfold worth
    rw [hzero]
    simp
  · refine Nat.pos_of_ne_zero fun hzero => hwhole units' ?_
    have hnone : exponent' = 0 := by omega
    unfold worth
    rw [hnone]
    simp

end settled

/-! ### What is read -/

/-- The size that is read for digits. -/
def reread (d : ℕ × ℤ) : Float := scaled (settle 20 d).1 (settle 20 d).2

/-- For what is not whole a fraction is read. -/
theorem Names.exists_fraction (h : Names d x) (hwhole : ∀ n : ℕ, x.value ≠ n) :
    ∃ units digits : ℕ, reread d = scaled units (-digits) ∧ 0 < units ∧ units ≤ 10 ^ 17 ∧
      0 < digits ∧ (digits : ℤ) ≤ 16 - x.leading ∧ worth (units, -digits) = worth d := by
  obtain ⟨units, exponent⟩ := d
  obtain ⟨⟨units', exponent'⟩, hsettle⟩ : ∃ d', settle 20 (units, exponent) = d' := ⟨_, rfl⟩
  obtain ⟨hunits, hmost, digits, rfl, hdigits, hdown⟩ :=
    settled_fraction hsettle (h.worth_ne (exponent_neg hwhole).le hwhole)
  have hleast : x.leading - 16 ≤ exponent := h.least
  refine ⟨units', digits, ?_, hunits, hmost.trans h.most, hdigits, by omega,
    worth_settled hsettle⟩
  unfold reread
  rw [hsettle]

/-- What is read for a large number is large. -/
theorem Names.le_reread (h : Names d x) (hx : x.IsStored) (hpos : 0 < x.m)
    (hlarge : 2 ^ 63 ≤ worth d) (hfinite : (reread d).isFinite = true) :
    2 ^ 63 ≤ (Binary.ofFloat (reread d)).value := by
  obtain ⟨units, exponent⟩ := d
  unfold reread at hfinite ⊢
  obtain ⟨⟨units', exponent'⟩, hsettle⟩ : ∃ d', settle 20 (units, exponent) = d' := ⟨_, rfl⟩
  rw [hsettle] at hfinite ⊢
  have hless : worth (units, exponent) < 10 ^ (310 : ℤ) := by
    have hten : (10 : ℚ) ^ (310 : ℤ) = 10 * 10 ^ (309 : ℤ) := by
      rw [show (310 : ℤ) = 309 + 1 by norm_num, zpow_add_one₀ (by norm_num), mul_comm]
    have hhigh := (hx.value_bounds hpos).2
    have hbound := (h.worth_bounds hpos).2.2
    have hpositive : (0 : ℚ) < 10 ^ (309 : ℤ) := by positivity
    rw [hten]
    generalize (10 : ℚ) ^ (309 : ℤ) = ten at hhigh hpositive ⊢
    linarith
  obtain ⟨hup, hfew, hroom⟩ := settled_large hsettle h.most hlarge hless
  rw [← worth_settled hsettle] at hlarge
  exact le_scaled hup hfew hroom hlarge hfinite

/-- What is read for the two smallest numbers. -/
theorem reread_smallest :
    Binary.ofFloat (reread (Binary.shortest ⟨1, -1074, false⟩)) = ⟨1, -1074, false⟩ ∧
      Binary.ofFloat (reread (Binary.shortest ⟨2, -1074, false⟩)) = ⟨2, -1074, false⟩ := by
  decide +kernel

/-- The digits of any other number are not too small. -/
theorem Names.le_worth (h : Names d x) (hx : x.IsStored) (hm : 3 ≤ x.m) :
    5 / 2 * 2 ^ (-1074 : ℤ) ≤ worth d := by
  have hnear := h.near
  have hm : (3 : ℚ) ≤ x.m := by exact_mod_cast hm
  have hunit : (2 : ℚ) ^ (-1074 : ℤ) ≤ 2 ^ x.q := pow_two_le hx.least
  have hvalue : 3 * (2 : ℚ) ^ x.q ≤ x.value := mul_le_mul_of_nonneg_right hm (by positivity)
  rw [zpow_sub_one₀ (by norm_num)] at hnear
  have hlow := (abs_le.mp hnear).1
  generalize (2 : ℚ) ^ (-1074 : ℤ) = least at hunit ⊢
  linarith

/-- What is read for a number below one fourth lies between zero and one. -/
theorem reread_between (hx : x.IsStored) (hpos : 0 < x.m) (hsmall : x.value < 1 / 4)
    (hfinite : (reread x.shortest).isFinite = true) :
    0 < (Binary.ofFloat (reread x.shortest)).value ∧
      (Binary.ofFloat (reread x.shortest)).value < 1 := by
  have hpositive : 0 < x.value := mul_pos (by exact_mod_cast hpos) (by positivity)
  have hwhole : ∀ n : ℕ, x.value ≠ n := by
    intro n heq
    rw [heq] at hpositive hsmall
    have hone : (1 : ℚ) ≤ n := by exact_mod_cast hpositive
    linarith
  rcases lt_or_ge 2 x.m with hm | hm
  · have hnames := names_shortest hx hpos
    generalize x.shortest = d at hnames hfinite ⊢
    obtain ⟨units, digits, hread, hunits, hmost, hdigits, hdown, hworth⟩ :=
      hnames.exists_fraction hwhole
    rw [hread] at hfinite ⊢
    refine scaled_between hunits hmost hdigits ?_ ?_ hfinite
    · have := (hnames.worth_bounds hpos).2.2
      rw [hworth]
      linarith
    · rw [or_iff_not_imp_left]
      intro hfar
      have hleading := hx.le_leading hpos
      refine ⟨by omega, ?_⟩
      have hup : worth (units, 308 - digits) = worth (units, -digits) * 10 ^ (308 : ℤ) := by
        unfold worth
        rw [mul_assoc, ← zpow_add₀ (by norm_num)]
        congr 2
        ring
      have hpow : (2 : ℚ) ^ (1023 : ℤ) ≤ 10 ^ (308 : ℤ) := by
        exact_mod_cast (by decide +kernel : 2 ^ 1023 ≤ 10 ^ 308)
      have hproduct : (2 : ℚ) ^ (-1074 : ℤ) * 2 ^ (1023 : ℤ) = 2 ^ (-51 : ℤ) := by
        rw [← zpow_add₀ (by norm_num)]
        norm_num
      rw [hup, hworth]
      calc (5 : ℚ) / 4 * 2 ^ (-50 : ℤ) = 5 / 2 * 2 ^ (-51 : ℤ) := by norm_num
        _ = 5 / 2 * 2 ^ (-1074 : ℤ) * 2 ^ (1023 : ℤ) := by rw [mul_assoc, hproduct]
        _ ≤ worth d * 10 ^ (308 : ℤ) :=
          mul_le_mul (hnames.le_worth hx hm) hpow (by positivity)
            (hnames.worth_bounds hpos).1.le
  · -- the two smallest numbers
    obtain ⟨m, q, narrow⟩ := x
    have hm : m ≤ 2 := hm
    have hpos : 0 < m := hpos
    obtain rfl : q = -1074 := by
      by_contra hne
      have hless : -1074 < q := lt_of_le_of_ne hx.least (Ne.symm hne)
      have hfull : 2 ^ 52 ≤ m := hx.full hless
      omega
    obtain rfl : narrow = false := by
      cases narrow with
      | false => rfl
      | true =>
        have hnarrow : m = 2 ^ 52 := hx.narrow rfl
        omega
    have hread : Binary.ofFloat (reread (Binary.shortest ⟨m, -1074, false⟩)) =
        ⟨m, -1074, false⟩ := by
      obtain rfl | rfl : m = 1 ∨ m = 2 := by omega
      · exact reread_smallest.1
      · exact reread_smallest.2
    rw [hread]
    exact ⟨hpositive, hsmall.trans (by norm_num)⟩

/-- What is read for a number that is not whole is not whole. -/
theorem reread_ne_natCast (hx : x.IsStored) (hpos : 0 < x.m) (hwhole : ∀ n : ℕ, x.value ≠ n)
    (hfinite : (reread x.shortest).isFinite = true) (n : ℕ) :
    (Binary.ofFloat (reread x.shortest)).value ≠ n := by
  have hq := exponent_neg hwhole
  rcases lt_or_ge x.value (1 / 4) with hsmall | hmiddle
  · obtain ⟨hlow, hhigh⟩ := reread_between hx hpos hsmall hfinite
    intro heq
    rw [heq] at hlow hhigh
    have hlow : 0 < n := by exact_mod_cast hlow
    have hhigh : n < 1 := by exact_mod_cast hhigh
    omega
  · have hnames := names_shortest hx hpos
    generalize x.shortest = d at hnames hfinite ⊢
    obtain ⟨units, digits, hread, hunits, hmost, hdigits, hdown, hworth⟩ :=
      hnames.exists_fraction hwhole
    have hnear := hnames.near
    rw [← hworth] at hnear
    rw [hread] at hfinite ⊢
    have hfew : -1 ≤ x.leading := by
      have hless : (10 : ℚ) ^ (-1 : ℤ) < 10 ^ (x.leading + 1) := by
        calc (10 : ℚ) ^ (-1 : ℤ) ≤ 1 / 4 := by norm_num
          _ ≤ x.value := hmiddle
          _ < 10 ^ (x.leading + 1) := (hx.leading_bounds hpos).2
      have := (zpow_lt_zpow_iff_right₀ (by norm_num)).mp hless
      omega
    have hplaces : -54 ≤ x.q := by
      have hless : (2 : ℚ) ^ (-2 : ℤ) < 2 ^ (x.q + 53) := by
        calc (2 : ℚ) ^ (-2 : ℤ) = 1 / 4 := by norm_num
          _ ≤ x.value := hmiddle
          _ < 2 ^ (x.q + 53) := hx.value_lt
      have := lt_of_pow_two_lt hless
      omega
    exact scaled_ne_natCast hx hplaces hq hwhole hunits hmost hdigits (by omega) hnear hfinite n

/-- What is read for a number has the sign of the number and the size that is read for its
    digits. -/
theorem approximate_numeral {y : Float} (hzero : (y == 0.0) = false)
    (hnames : Names (Binary.ofFloat y).shortest (Binary.ofFloat y))
    (hpos : 0 < worth (Binary.ofFloat y).shortest) : (Shortest.numeral y).approximate =
      if Binary.isNegative y then -reread (Binary.ofFloat y).shortest
      else reread (Binary.ofFloat y).shortest := by
  unfold Shortest.numeral
  rw [hzero]
  generalize (Binary.ofFloat y).shortest = d at hnames hpos ⊢
  obtain ⟨units, exponent⟩ := d
  show Decimal.approximate ⟨Binary.isNegative y, units, exponent⟩ = _
  have hunits : units ≠ 0 := (worth_pos_iff.mp hpos).ne'
  have hless : units < 10 ^ 18 := hnames.most.trans_lt (by decide)
  have hleading := leading_of_le (d := ⟨Binary.isNegative y, units, exponent⟩) hless
  unfold approximate reread
  rw [hleading]
  simp only [if_neg hunits]

end Decimal

namespace Number

open Decimal

/-- What a column keeps of a number as a floating-point number, it reads as a floating-point
    number again from the numeral of the number. -/
theorem tidy_approximate_numeral {y : Float} (hfinite : y.isFinite = true)
    (hreal : tidy y = .real y) : tidy (Shortest.numeral y).approximate =
      .real (Shortest.numeral y).approximate := by
  have hx := Binary.isStored_ofFloat hfinite
  have hnot := (tidy_eq_real_iff y).mp hreal hfinite
  have hvalue : (Binary.ofFloat y).value ≠ 0 := fun heq => hnot ⟨0, by decide, by simpa using heq⟩
  have hpos : 0 < (Binary.ofFloat y).m := by
    refine Nat.pos_of_ne_zero fun hm => hvalue ?_
    unfold Binary.value
    rw [hm]
    simp
  have hzero := beq_zero_of_tidy hreal
  have hnames := names_shortest hx hpos
  -- the sign makes no difference
  suffices hread : tidy (reread (Binary.ofFloat y).shortest) =
      .real (reread (Binary.ofFloat y).shortest) by
    rw [approximate_numeral hzero hnames (hnames.worth_bounds hpos).1]
    split
    · exact (tidy_neg_eq_real_iff _).mpr hread
    · exact hread
  rw [tidy_eq_real_iff]
  rintro hfinite ⟨n, hless, heq⟩
  rcases le_or_gt (2 ^ 63) (Binary.ofFloat y).value with hlarge | hsmall
  · have hle := hnames.le_reread hx hpos (le_worth_shortest hx hlarge) hfinite
    rw [heq] at hle
    have hle : 2 ^ 63 ≤ n := by exact_mod_cast hle
    omega
  · refine reread_ne_natCast hx hpos (fun whole hwhole => hnot ⟨whole, ?_, hwhole⟩) hfinite n heq
    rw [hwhole] at hsmall
    exact_mod_cast hsmall

end Number

end RequestCatalog
