import RequestCatalog.Number
import RequestCatalog.Proofs.Numeral.Rounding
import RequestCatalog.Proofs.Priority.Arithmetic

/-! # Numbers in bits

  The size of a finite number stands in its bits without the sign. A rounded size that is put
  into bits has the same size when it is taken out again, or it is infinite
  (`Extended.value_packed`).

  * `Binary.IsStored` says which sizes stand in bits.
  * `Number.tidy_eq_real_iff`: a column keeps a number as it is exactly if the number is not
    worth a small whole number.
-/

namespace RequestCatalog

open Float.Model

/-! ### Exponent and mantissa -/

theorem toNat_unpackExponent (b : BitVec Format.binary64.numBits) :
    (UnpackedFloat.unpackExponent b).toNat = b.toNat / 2 ^ 52 % 2 ^ 11 := by
  rw [UnpackedFloat.unpackExponent_def, BitVec.extractLsb'_toNat, Nat.shiftRight_eq_div_pow]

theorem toNat_unpackMantissa (b : BitVec Format.binary64.numBits) :
    (UnpackedFloat.unpackMantissa b).toNat = b.toNat % 2 ^ 52 := by
  rw [UnpackedFloat.unpackMantissa_def, BitVec.extractLsb'_toNat, Nat.shiftRight_zero]

/-- Exponent and mantissa are all the bits but the sign. -/
theorem toNat_mod_congr {b c : BitVec Format.binary64.numBits}
    (hexponent : UnpackedFloat.unpackExponent b = UnpackedFloat.unpackExponent c)
    (hmantissa : UnpackedFloat.unpackMantissa b = UnpackedFloat.unpackMantissa c) :
    b.toNat % 2 ^ 63 = c.toNat % 2 ^ 63 := by
  have hexponent := congrArg BitVec.toNat hexponent
  have hmantissa := congrArg BitVec.toNat hmantissa
  rw [toNat_unpackExponent, toNat_unpackExponent] at hexponent
  rw [toNat_unpackMantissa, toNat_unpackMantissa] at hmantissa
  omega

/-- A number is finite if its bits without the sign are below those of infinity. -/
theorem isFinite_iff_bits (x : Float) :
    x.isFinite = true ↔ x.toBits.toNat % twos 63 < 2047 * twos 52 := by
  have hfinite : x.isFinite = true ↔
      @UnpackedFloat.unpackExponent Format.binary64 x.toModel.toBits.toBitVec ≠ -1#_ :=
    Priority.isFinite_unpack_iff x.toModel.toBits.toBitVec
  have hlt := x.toBits.toNat_lt
  rw [hfinite, ne_eq, ← BitVec.toNat_inj, toNat_unpackExponent]
  show ¬ x.toBits.toNat / 2 ^ 52 % 2 ^ 11 = 2047 ↔ x.toBits.toNat % 2 ^ 63 < 2047 * 2 ^ 52
  omega

/-- Bits that are not those of NaN are kept. -/
theorem toBits_ofBits {bits : ℕ} (h : bits ≤ 2047 * twos 52) :
    (Float.ofBits bits.toUInt64).toBits.toNat = bits := by
  have h : bits ≤ 2047 * 2 ^ 52 := h
  have hbits : bits.toUInt64.toBitVec.toNat = bits := by
    show bits.toUInt64.toNat = bits
    simp
    omega
  have hnumber : @UnpackedFloat.isNaNBits Format.binary64 bits.toUInt64.toBitVec =
      false := by
    unfold UnpackedFloat.isNaNBits
    rw [decide_eq_false_iff_not, ne_eq, ← BitVec.toNat_inj, ← BitVec.toNat_inj,
      toNat_unpackExponent, toNat_unpackMantissa, hbits]
    show ¬ (bits / 2 ^ 52 % 2 ^ 11 = 2047 ∧ ¬ bits % 2 ^ 52 = 0)
    omega
  have hpack := @UnpackedFloat.pack_unpack Format.binary64 bits.toUInt64.toBitVec
  rw [hnumber] at hpack
  show (UnpackedFloat.pack Format.binary64
    (UnpackedFloat.unpack Format.binary64 bits.toUInt64.toBitVec)).toNat = bits
  rw [hpack]
  exact hbits

/-- A number and its negative differ in the sign only. -/
theorem toBits_neg (x : Float) : (-x).toBits.toNat % twos 63 = x.toBits.toNat % twos 63 := by
  have hneg : (-x).toBits.toNat = (UnpackedFloat.pack Format.binary64
      (UnpackedFloat.unpack Format.binary64 x.toModel.toBits.toBitVec).neg).toNat := rfl
  have hx : x.toBits.toNat = (UnpackedFloat.pack Format.binary64
      (UnpackedFloat.unpack Format.binary64 x.toModel.toBits.toBitVec)).toNat := by
    rw [UnpackedFloat.pack_unpack_of_valid x.toModel.valid]
    rfl
  rw [hneg, hx]
  apply toNat_mod_congr
  all_goals
    cases UnpackedFloat.unpack Format.binary64 x.toModel.toBits.toBitVec with
    | finite s m e hm =>
      simp only [UnpackedFloat.neg, UnpackedFloat.pack, UnpackedFloat.packedInfinity]
      split_ifs <;> simp
    | _ =>
      simp [UnpackedFloat.neg, UnpackedFloat.pack, UnpackedFloat.packedInfinity,
        UnpackedFloat.packedZero]

/-! ### Sizes -/

namespace Binary

/-- What a size is worth. -/
def value (x : Binary) : ℚ := x.m * 2 ^ x.q

/-- The size stands in the bits of a finite number. -/
structure IsStored (x : Binary) : Prop where
  /-- There are 53 binary digits. -/
  lt : x.m < 2 ^ 53
  /-- The last digit is not too small, -/
  least : -1074 ≤ x.q
  /-- and not too large. -/
  most : x.q ≤ 971
  /-- All digits are used, where the last one could be smaller. -/
  full : -1074 < x.q → 2 ^ 52 ≤ x.m
  /-- The number below is near only if the exponent is smaller there. -/
  narrow : x.narrowBelow = true → x.m = 2 ^ 52

theorem isStored_ofBits {bits : ℕ} (h : bits < 2047 * twos 52) : (ofBits bits).IsStored := by
  have h : bits < 2047 * 2 ^ 52 := h
  have hfraction := Nat.mod_lt bits (show 0 < 2 ^ 52 by decide)
  unfold ofBits
  show Binary.IsStored (if bits / 2 ^ 52 % 2048 = 0 then ⟨bits % 2 ^ 52, -1074, false⟩ else
    ⟨2 ^ 52 + bits % 2 ^ 52, (bits / 2 ^ 52 % 2048 : ℕ) - 1075,
      bits % 2 ^ 52 = 0 ∧ bits / 2 ^ 52 % 2048 > 1⟩)
  split
  · exact ⟨hfraction.trans (by decide), le_rfl, show -1074 ≤ (971 : ℤ) by decide,
      fun h => absurd h (lt_irrefl _), fun h => by cases h⟩
  · refine ⟨?_, ?_, ?_, ?_, ?_⟩
    · show 2 ^ 52 + bits % 2 ^ 52 < 2 ^ 53
      omega
    · show -1074 ≤ ((bits / 2 ^ 52 % 2048 : ℕ) : ℤ) - 1075
      omega
    · show ((bits / 2 ^ 52 % 2048 : ℕ) : ℤ) - 1075 ≤ 971
      omega
    · intro _
      exact Nat.le_add_right _ _
    · intro hnarrow
      have hfraction : bits % 2 ^ 52 = 0 := (of_decide_eq_true hnarrow).1
      show 2 ^ 52 + bits % 2 ^ 52 = 2 ^ 52
      rw [hfraction, Nat.add_zero]

theorem isStored_ofFloat {x : Float} (h : x.isFinite = true) : (ofFloat x).IsStored :=
  isStored_ofBits ((isFinite_iff_bits x).mp h)

/-- There are no more than 53 binary digits. -/
theorem IsStored.value_lt {x : Binary} (hx : x.IsStored) : x.value < 2 ^ (x.q + 53) := by
  have hm : (x.m : ℚ) < 2 ^ 53 := by exact_mod_cast hx.lt
  have hunit : (0 : ℚ) < 2 ^ x.q := by positivity
  calc x.value < 2 ^ 53 * 2 ^ x.q := mul_lt_mul_of_pos_right hm hunit
    _ = 2 ^ (x.q + 53) := by
      rw [zpow_add₀ (by norm_num), mul_comm]
      norm_num

theorem ofFloat_neg (x : Float) : ofFloat (-x) = ofFloat x := by
  unfold ofFloat
  rw [toBits_neg]

/-- The whole number of a size is what it is worth. -/
theorem whole?_eq_some_iff {x : Binary} {n : ℕ} : x.whole? = some n ↔ x.value = n := by
  have hpos : 0 < twos (-x.q) := twos_pos _
  have hpos' : (0 : ℚ) < twos (-x.q) := by exact_mod_cast hpos
  have hvalue : x.value = n ↔ x.m * twos x.q = n * twos (-x.q) := by
    unfold value
    rw [← twos_div_twos, mul_div_assoc', div_eq_iff hpos'.ne']
    exact_mod_cast Iff.rfl
  rw [hvalue]
  unfold whole?
  dsimp only
  split
  next hmod =>
    rw [Option.some.injEq, Nat.div_eq_iff_eq_mul_left hpos (Nat.dvd_of_mod_eq_zero hmod)]
  next hmod =>
    refine iff_of_false (by simp) fun h => hmod ?_
    rw [h, Nat.mul_mod_left]

end Binary

/-! ### Storing a size -/

namespace Extended

/-- The bits of a size in 53 digits are those of a number of this size. -/
theorem value_ofBits {x : Extended} (hm : x.m ≤ 2 ^ 53) (hleast : -1074 ≤ x.q)
    (hfull : -1074 < x.q → 2 ^ 52 ≤ x.m)
    (hbits : (x.q + 1074).toNat * 2 ^ 52 + x.m < 2047 * 2 ^ 52) :
    (Binary.ofBits ((x.q + 1074).toNat * 2 ^ 52 + x.m)).value = x.value := by
  obtain ⟨m, q⟩ := x
  have hleast : -1074 ≤ q := hleast
  obtain ⟨n, hn⟩ := Int.eq_ofNat_of_zero_le (show 0 ≤ q + 1074 by omega)
  obtain rfl : q = n - 1074 := by omega
  dsimp only at hm hfull hbits ⊢
  rw [show ((n : ℤ) - 1074 + 1074).toNat = n by omega] at hbits ⊢
  have hofBits : Binary.ofBits (n * 2 ^ 52 + m) =
      if (n * 2 ^ 52 + m) / 2 ^ 52 % 2048 = 0 then ⟨(n * 2 ^ 52 + m) % 2 ^ 52, -1074, false⟩ else
        ⟨2 ^ 52 + (n * 2 ^ 52 + m) % 2 ^ 52, ((n * 2 ^ 52 + m) / 2 ^ 52 % 2048 : ℕ) - 1075,
          (n * 2 ^ 52 + m) % 2 ^ 52 = 0 ∧ (n * 2 ^ 52 + m) / 2 ^ 52 % 2048 > 1⟩ := rfl
  rw [hofBits]
  unfold Binary.value value
  rcases lt_or_ge m (2 ^ 52) with hsmall | hlarge
  · -- the digits are not used up, so the unit is the least one
    have hzero : n = 0 := by omega
    subst hzero
    rw [if_pos (by omega), show (0 * 2 ^ 52 + m) % 2 ^ 52 = m by omega]
    simp
  · rw [if_neg (by omega)]
    rcases Nat.lt_or_eq_of_le hm with hless | heq
    · rw [show 2 ^ 52 + (n * 2 ^ 52 + m) % 2 ^ 52 = m by omega,
        show (n * 2 ^ 52 + m) / 2 ^ 52 % 2048 = n + 1 by omega]
      congr 2
      push_cast
      ring
    · -- rounding went up to the next power of two
      subst heq
      rw [show 2 ^ 52 + (n * 2 ^ 52 + 2 ^ 53) % 2 ^ 52 = 2 ^ 52 by omega,
        show (n * 2 ^ 52 + 2 ^ 53) / 2 ^ 52 % 2048 = n + 2 by omega]
      have hone : ((n + 2 : ℕ) : ℤ) - 1075 = n - 1074 + 1 := by
        push_cast
        ring
      rw [hone, zpow_add_one₀ (by norm_num)]
      push_cast
      ring

/-- A size in 53 digits is stored as it is, unless what is stored is infinite. -/
theorem value_packed {x : Extended} (hm : x.m ≤ 2 ^ 53) (hleast : -1074 ≤ x.q)
    (hfull : -1074 < x.q → 2 ^ 52 ≤ x.m) (hfinite : x.packed.isFinite = true) :
    (Binary.ofFloat x.packed).value = x.value := by
  unfold packed at hfinite ⊢
  split at hfinite
  next hzero =>
    have hstored : Binary.ofFloat 0.0 = ⟨0, -1074, false⟩ := by decide +kernel
    rw [if_pos hzero, hstored]
    simp [Binary.value, value, hzero]
  next hzero =>
    rw [if_neg hzero]
    dsimp only at hfinite ⊢
    generalize hbits : (x.q + 1074).toNat * twos 52 + x.m = bits at hfinite ⊢
    have hround := toBits_ofBits (Nat.min_le_right bits (2047 * twos 52))
    have hmod : min bits (2047 * twos 52) % twos 63 = min bits (2047 * twos 52) := by
      refine Nat.mod_eq_of_lt ((Nat.min_le_right _ _).trans_lt ?_)
      decide
    have hless : bits < 2047 * twos 52 := by
      have hfinite := (isFinite_iff_bits _).mp hfinite
      rw [hround, hmod] at hfinite
      omega
    unfold Binary.ofFloat
    rw [hround, hmod, Nat.min_eq_left hless.le, ← hbits]
    exact value_ofBits hm hleast hfull (hbits.trans_lt hless)

/-- A rounded size is stored as it is, unless what is stored is infinite. -/
theorem IsNearest.value_packed {v : ℚ} {x : Extended} (h : IsNearest 53 (-1074) v x)
    (hfinite : x.packed.isFinite = true) : (Binary.ofFloat x.packed).value = x.value := by
  obtain ⟨hm, hleast, hfull⟩ := h.units_bounds (by decide)
  exact Extended.value_packed hm hleast hfull hfinite

end Extended

/-! ### Small whole numbers -/

/-- The size is worth a whole number that a column of whole numbers would keep. -/
def IsSmallWhole (v : ℚ) : Prop := ∃ n : ℕ, n < 2 ^ 63 ∧ v = n

namespace Number

/-- A column keeps a floating-point number as it is, unless it is worth a small whole number. -/
theorem tidy_eq_real_iff (x : Float) : tidy x = .real x ↔
    (x.isFinite = true → ¬ IsSmallWhole (Binary.ofFloat x).value) := by
  cases hfinite : x.isFinite with
  | false =>
    have hnone : Binary.wholeValue? x = none := by
      unfold Binary.wholeValue?
      rw [hfinite]
      rfl
    unfold tidy
    rw [hnone]
    simp
  | true =>
    simp only [forall_const]
    cases hwhole : (Binary.ofFloat x).whole? with
    | none =>
      have hnone : Binary.wholeValue? x = none := by
        unfold Binary.wholeValue?
        rw [hfinite, hwhole]
        rfl
      unfold tidy
      rw [hnone]
      refine iff_of_true rfl ?_
      rintro ⟨n, -, hn⟩
      rw [Binary.whole?_eq_some_iff.mpr hn] at hwhole
      cases hwhole
    | some n =>
      have hvalue := Binary.whole?_eq_some_iff.mp hwhole
      have hsmall : IsSmallWhole (Binary.ofFloat x).value ↔ n < 2 ^ 63 := by
        refine ⟨?_, fun h => ⟨n, h, hvalue⟩⟩
        rintro ⟨other, hless, hother⟩
        obtain rfl : n = other := by exact_mod_cast hvalue.symm.trans hother
        exact hless
      obtain ⟨value, hsome, hsign⟩ :
          ∃ value : ℤ, Binary.wholeValue? x = some value ∧ (value = n ∨ value = -n) := by
        unfold Binary.wholeValue?
        rw [hfinite, hwhole]
        cases Binary.isNegative x with
        | false => exact ⟨n, rfl, .inl rfl⟩
        | true => exact ⟨-n, rfl, .inr rfl⟩
      rw [hsmall]
      unfold tidy
      rw [hsome]
      by_cases hfits : -9223372036854775808 < value ∧ value ≤ 9223372036854775807
      · simp only [if_pos hfits]
        exact iff_of_false (fun h => by cases h) (by omega)
      · simp only [if_neg hfits]
        exact iff_of_true trivial (by omega)

/-- It does so with a number exactly if it does so with its negative. -/
theorem tidy_neg_eq_real_iff (x : Float) : tidy (-x) = .real (-x) ↔ tidy x = .real x := by
  have hfinite : (-x).isFinite = true ↔ x.isFinite = true := by
    rw [isFinite_iff_bits, isFinite_iff_bits, toBits_neg]
  rw [tidy_eq_real_iff, tidy_eq_real_iff, hfinite, Binary.ofFloat_neg]

/-- A number that equals zero is not kept as it is. -/
theorem beq_zero_of_tidy {x : Float} (h : tidy x = .real x) : (x == 0.0) = false := by
  have hpos : Float.isFinite 0 = true ∧ Binary.ofFloat 0 = ⟨0, -1074, false⟩ := by decide +kernel
  have hneg : Float.isFinite (-0) = true ∧ Binary.ofFloat (-0) = ⟨0, -1074, false⟩ := by
    decide +kernel
  rw [Bool.eq_false_iff]
  intro hzero
  rw [show (0.0 : Float) = 0 by decide +kernel, Float.beq_iff_ne_nan_and_eq] at hzero
  obtain ⟨hfinite, hsize⟩ : x.isFinite = true ∧ Binary.ofFloat x = ⟨0, -1074, false⟩ := by
    obtain ⟨-, -, rfl | ⟨rfl, -⟩ | ⟨rfl, -⟩⟩ := hzero
    · exact hpos
    · exact hpos
    · exact hneg
  refine (tidy_eq_real_iff x).mp h hfinite ⟨0, by decide, ?_⟩
  rw [hsize]
  simp [Binary.value]

end Number

end RequestCatalog
