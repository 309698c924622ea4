import Mathlib
import RequestCatalog.Proofs.Priority.Order

/-! # Sums and halves of priorities

  The place of a copy is computed from stored priorities. It is one step past the last of
  them, or half the sum of two neighbours. This module says when the result is finite.

  A rounded number is finite as long as its exponent is not greater than that of the
  greatest numbers (`InRange`). Rounding leaves the exponent there for everything below the
  greatest number and half of its last digit (`inRange_roundWithAccuracy`). So

  * a step never leads beyond the greatest number, since it is less than half of the last
    digit of that one (`isFinite_add_gap`);
  * half of a number is finite exactly if the number is (`isFinite_half_iff`);
  * a sum may be infinite, but is never NaN (`isNaN_add`).
-/

namespace RequestCatalog

namespace Priority

open Float.Model

/-! ### Numbers as they are stored -/

/-- The number is finite, and its exponent is not greater than that of the greatest numbers. -/
def InRange : UnpackedFloat → Prop
  | .finite _ _ e _ => e ≤ 971
  | .zero _ => True
  | .infinity _ | .notANumber => False

/-- The bits of a number tell by its exponent whether it is finite. -/
theorem isFinite_unpack_iff (b : BitVec Format.binary64.numBits) :
    (UnpackedFloat.unpack Format.binary64 b).isFinite = true ↔
      UnpackedFloat.unpackExponent b ≠ -1#_ := by
  unfold UnpackedFloat.unpack
  dsimp only
  split
  · next h => split <;> simp [h, UnpackedFloat.isFinite]
  · next h =>
    refine iff_of_true ?_ h
    split
    · split <;> rfl
    · rfl

/-- What is not NaN is stored as infinity if it is out of range, and else with an exponent that
    infinity does not have. -/
theorem pack_cases {u : UnpackedFloat} (h : u.isNaN = false) :
    (¬ InRange u ∧ ∃ s, UnpackedFloat.pack Format.binary64 u =
        UnpackedFloat.packedInfinity Format.binary64 s) ∨
      UnpackedFloat.unpackExponent (UnpackedFloat.pack Format.binary64 u) ≠ -1#_ := by
  fun_cases UnpackedFloat.pack with
  | case1 => cases h
  | case2 s => exact .inl ⟨id, s, rfl⟩
  | case3 s =>
    right
    rw [UnpackedFloat.packedZero, UnpackedFloat.unpackExponent_packComponents]
    decide
  | case4 s m e hm biased hover =>
    have hover : 2048 ≤ (e + (1023 : ℕ) + (52 : ℕ)).toNat + 1 := hover
    exact .inl ⟨fun he : e ≤ 971 => by omega, s, rfl⟩
  | case5 s m e hm bits biased hover hbits =>
    right
    have hover : ¬ 2048 ≤ biased + 1 := hover
    rw [UnpackedFloat.unpackExponent_packComponents, ne_eq, ← BitVec.toNat_inj]
    show ¬ biased % 2048 = 2047
    omega
  | case6 s m e hm bits biased hover hbits =>
    right
    rw [UnpackedFloat.unpackExponent_packComponents]
    decide

/-- A number that is laid out in range is finite when it is stored. -/
theorem isFinite_pack {u : UnpackedFloat} (h : InRange u) : (pack u).unpack.isFinite = true := by
  have hu : u.isNaN = false := by
    cases u with
    | notANumber => exact h.elim
    | _ => rfl
  refine (isFinite_unpack_iff _).mpr ?_
  rcases pack_cases hu with ⟨hout, -⟩ | hexponent
  · exact absurd h hout
  · exact hexponent

/-- Nothing but NaN is stored as NaN. -/
theorem isNaN_pack {u : UnpackedFloat} (h : u.isNaN = false) : (pack u).unpack.isNaN = false := by
  refine Bool.eq_false_iff.mpr fun hnan => ?_
  have hpacked : UnpackedFloat.pack Format.binary64 u =
      UnpackedFloat.packedNaN Format.binary64 :=
    (UnpackedFloat.isNaN_unpack_iff_of_valid UnpackedFloat.valid_pack).mp hnan
  rcases pack_cases h with ⟨-, s, hs⟩ | hother
  · -- infinity has no mantissa
    have hmantissa := congrArg UnpackedFloat.unpackMantissa (hs.symm.trans hpacked)
    rw [UnpackedFloat.packedInfinity, UnpackedFloat.packedNaN,
      UnpackedFloat.unpackMantissa_packComponents,
      UnpackedFloat.unpackMantissa_packComponents] at hmantissa
    revert hmantissa
    decide
  · rw [hpacked, UnpackedFloat.packedNaN, UnpackedFloat.unpackExponent_packComponents] at hother
    exact hother rfl

/-- Infinity is stored as what it is. -/
theorem isFinite_pack_infinity (s : UnpackedFloat.Sign) :
    (pack (.infinity s)).unpack.isFinite = false := by
  cases s <;> rfl

/-- Digits and exponent as they are stored: 53 digits, or less with the least exponent. -/
structure IsCanonical (m : ℕ) (e : ℤ) : Prop where
  /-- There are at most 53 digits. -/
  lt : m < 2 ^ 53
  /-- The exponent is not smaller than that of the smallest number. -/
  least : -1074 ≤ e
  /-- There are less than 53 digits only if the exponent cannot be smaller. -/
  full : -1074 < e → 2 ^ 52 ≤ m

/-- The leading digit of a number is not stored, and stands in front of those that are. -/
theorem toNat_one_append (b : BitVec 52) : (1#1 ++ b).toNat = 2 ^ 52 + b.toNat := by
  rw [BitVec.toNat_append, ← Nat.shiftLeft_add_eq_or_of_lt b.isLt]
  rfl

/-- What is stored of a finite number has an exponent in range. -/
theorem unpack_bounds {x : Float} {s : UnpackedFloat.Sign} {m : ℕ} {e : ℤ} {hm : 0 < m}
    (hx : x.toModel.unpack = .finite s m e hm) : IsCanonical m e ∧ e ≤ 971 := by
  have hx : UnpackedFloat.unpack Format.binary64 x.toModel.toBits.toBitVec = .finite s m e hm := hx
  have hbias : Format.binary64.exponentBias = 1023 := rfl
  unfold UnpackedFloat.unpack at hx
  dsimp only at hx
  generalize x.toModel.toBits.toBitVec = b at hx
  split at hx
  · split at hx <;> cases hx
  · next hother =>
    have hexponent : (@UnpackedFloat.unpackExponent Format.binary64 b).toNat < 2047 := by
      have hlt := (@UnpackedFloat.unpackExponent Format.binary64 b).isLt
      have hne : (@UnpackedFloat.unpackExponent Format.binary64 b).toNat ≠ 2047 :=
        fun h => hother (BitVec.eq_of_toNat_eq h)
      have hlt : (@UnpackedFloat.unpackExponent Format.binary64 b).toNat < 2048 := hlt
      omega
    have hmantissa : (@UnpackedFloat.unpackMantissa Format.binary64 b).toNat < 2 ^ 52 :=
      BitVec.isLt _
    split at hx
    · next hzero =>
      split at hx
      · cases hx
      · rw [hzero] at hx
        obtain ⟨-, rfl, rfl⟩ := UnpackedFloat.finite.inj hx
        exact ⟨⟨hmantissa.trans (by decide), by decide, fun h => absurd h (by decide)⟩, by decide⟩
    · next hnonzero =>
      rw [hbias] at hx
      obtain ⟨-, rfl, rfl⟩ := UnpackedFloat.finite.inj hx
      have hpos : 0 < (@UnpackedFloat.unpackExponent Format.binary64 b).toNat :=
        Nat.pos_of_ne_zero fun h => hnonzero (BitVec.eq_of_toNat_eq h)
      have hdigits := toNat_one_append (@UnpackedFloat.unpackMantissa Format.binary64 b)
      refine ⟨⟨?_, ?_, fun _ => ?_⟩, ?_⟩
      · rw [hdigits]
        omega
      · show (-1074 : ℤ) ≤ _ - ((1023 : ℕ) + (52 : ℕ))
        omega
      · rw [hdigits]
        omega
      · omega

/-! ### Rounding -/

section rounding

open UnpackedFloat (ExtendedMantissa Accuracy)

theorem shiftRight_mantissa (em : ExtendedMantissa) (k : ℕ) :
    (em >>> k).mantissa = em.mantissa / 2 ^ k := by
  induction k with
  | zero => exact (Nat.div_one _).symm
  | succ k ih =>
    show (em >>> k).mantissa / 2 = _
    rw [ih, Nat.div_div_eq_div_mul, Nat.pow_succ]

/-- The bit behind the digits that are left is the last one that was dropped. -/
theorem shiftRight_roundBit (em : ExtendedMantissa) (k : ℕ) :
    (em >>> (k + 1)).roundBit = (em.mantissa / 2 ^ k % 2 != 0) := by
  rw [← shiftRight_mantissa]
  rfl

theorem ofMantissaAndAccuracy_mantissa (m : ℕ) (accuracy : Accuracy) :
    (ExtendedMantissa.ofMantissaAndAccuracy m accuracy).mantissa = m := by
  rcases accuracy with _ | (_ | _ | _) <;> rfl

theorem roundedMantissa_le (em : ExtendedMantissa) : em.roundedMantissa ≤ em.mantissa + 1 := by
  obtain ⟨m, roundBit, stickyBit⟩ := em
  cases roundBit <;> cases stickyBit <;>
    simp only [ExtendedMantissa.roundedMantissa, ExtendedMantissa.accuracy,
      Accuracy.roundToNearestEven] <;> omega

/-- A mantissa is rounded up only if the bit behind it is set. -/
theorem roundedMantissa_of_roundBit {em : ExtendedMantissa} (h : em.roundBit = false) :
    em.roundedMantissa = em.mantissa := by
  obtain ⟨m, roundBit, stickyBit⟩ := em
  subst h
  cases stickyBit <;> rfl

variable (m : ℕ) (e : ℤ) (accuracy : Accuracy)

/-- The exponent after a shift. -/
theorem shiftToTargetExponent_exponent :
    (UnpackedFloat.shiftToTargetExponent Format.binary64 m e accuracy).2 =
      max e (max (m.log2 + e - 52) (-1074)) := by
  show e + ((max ((m.log2 : ℤ) + 1 + e - (53 : ℕ)) (-1074) - e).toNat : ℤ) = _
  omega

/-- A shift drops as many digits as the exponent grows. -/
theorem shiftToTargetExponent_shift {k : ℕ}
    (hk : (UnpackedFloat.shiftToTargetExponent Format.binary64 m e accuracy).2 = e + k) :
    (UnpackedFloat.shiftToTargetExponent Format.binary64 m e accuracy).1 =
      ExtendedMantissa.ofMantissaAndAccuracy m accuracy >>> k := by
  have hshift : (max ((m.log2 : ℤ) + 1 + e - (53 : ℕ)) (-1074) - e).toNat = k := by
    rw [shiftToTargetExponent_exponent] at hk
    omega
  rw [← hshift]
  rfl

/-- No more than 53 digits are left. -/
theorem shiftToTargetExponent_mantissa_lt :
    (UnpackedFloat.shiftToTargetExponent Format.binary64 m e accuracy).1.mantissa < 2 ^ 53 := by
  have hexponent := shiftToTargetExponent_exponent m e accuracy
  obtain ⟨k, hk⟩ : ∃ k : ℕ,
      (UnpackedFloat.shiftToTargetExponent Format.binary64 m e accuracy).2 = e + k :=
    ⟨_, rfl⟩
  rw [shiftToTargetExponent_shift m e accuracy hk, shiftRight_mantissa,
    ofMantissaAndAccuracy_mantissa, Nat.div_lt_iff_lt_mul (Nat.two_pow_pos k), ← Nat.pow_add]
  calc m < 2 ^ (m.log2 + 1) := Nat.lt_log2_self
    _ ≤ 2 ^ (53 + k) := Nat.pow_le_pow_right (by decide) (by omega)

/-- A number below the greatest one and half of its last digit is rounded to one that does not
    exceed the greatest. -/
theorem rounded_bounds {j : ℕ} (hj : e + j = 970) (hm : m < (2 ^ 54 - 1) * 2 ^ j) :
    let first := UnpackedFloat.shiftToTargetExponent Format.binary64 m e accuracy
    first.1.roundedMantissa < 2 ^ 53 ∧ first.2 ≤ 971 ∨
      first.1.roundedMantissa < 2 ^ 54 ∧ first.2 ≤ 970 := by
  intro first
  have hexponent : first.2 = max e (max (m.log2 + e - 52) (-1074)) :=
    shiftToTargetExponent_exponent m e accuracy
  have hdigits : first.1.mantissa < 2 ^ 53 := shiftToTargetExponent_mantissa_lt m e accuracy
  have hrounded := roundedMantissa_le first.1
  have hlog : m.log2 < 54 + j := by
    by_cases hzero : m = 0
    · subst hzero
      exact Nat.lt_of_lt_of_le (by decide) (Nat.le_add_right 54 j)
    · rw [Nat.log2_lt hzero, Nat.pow_add]
      exact hm.trans_le (Nat.mul_le_mul_right _ (by decide))
  by_cases hlast : first.2 = 971
  case neg => exact .inr ⟨by omega, by omega⟩
  left
  refine ⟨?_, hlast.le⟩
  -- the quotient is at most one less than a power, and then the bit behind it is not set
  have hshift : first.1 = ExtendedMantissa.ofMantissaAndAccuracy m accuracy >>> (j + 1) :=
    shiftToTargetExponent_shift m e accuracy (show first.2 = e + (j + 1 : ℕ) by omega)
  have hquotient : m / 2 ^ j < 2 ^ 54 - 1 :=
    (Nat.div_lt_iff_lt_mul (Nat.two_pow_pos j)).mpr hm
  have hmantissa : first.1.mantissa = m / 2 ^ j / 2 := by
    rw [hshift, shiftRight_mantissa, ofMantissaAndAccuracy_mantissa, Nat.pow_succ,
      Nat.div_div_eq_div_mul]
  have hbit : first.1.roundBit = (m / 2 ^ j % 2 != 0) := by
    rw [hshift, shiftRight_roundBit, ofMantissaAndAccuracy_mantissa]
  by_cases hfull : m / 2 ^ j / 2 = 2 ^ 53 - 1
  · have hclear : first.1.roundBit = false := by
      rw [hbit, show m / 2 ^ j % 2 = 0 by omega]
      rfl
    rw [roundedMantissa_of_roundBit hclear, hmantissa]
    omega
  · omega

/-- Rounding stays in range below the greatest number and half of its last digit. -/
theorem inRange_roundWithAccuracy (s : UnpackedFloat.Sign) {j : ℕ} (hj : e + j = 970)
    (hm : m < (2 ^ 54 - 1) * 2 ^ j) :
    InRange (UnpackedFloat.roundWithAccuracy Format.binary64 s m e accuracy) := by
  have hfirst := rounded_bounds m e accuracy hj hm
  unfold UnpackedFloat.roundWithAccuracy
  dsimp only at hfirst ⊢
  generalize UnpackedFloat.shiftToTargetExponent Format.binary64 m e accuracy = first at hfirst ⊢
  split
  · trivial
  · -- the second shift is by one digit, and only if rounding took one more
    show (UnpackedFloat.shiftToTargetExponent Format.binary64 first.1.roundedMantissa first.2
      .exact).2 ≤ 971
    rw [shiftToTargetExponent_exponent]
    generalize hr : first.1.roundedMantissa = r at hfirst ⊢
    have hlog : r = 0 ∨ r.log2 < 53 ∨ r.log2 < 54 ∧ first.2 ≤ 970 := by
      by_cases hzero : r = 0
      · exact .inl hzero
      · rw [Nat.log2_lt hzero, Nat.log2_lt hzero]
        omega
    rcases hlog with rfl | hlog | hlog
    · rw [Nat.log2_zero]
      omega
    · omega
    · omega

theorem isNaN_roundWithAccuracy (s : UnpackedFloat.Sign) :
    (UnpackedFloat.roundWithAccuracy Format.binary64 s m e accuracy).isNaN = false := by
  unfold UnpackedFloat.roundWithAccuracy
  dsimp only
  split <;> rfl

/-- A whole multiple of a power is rounded to a number. -/
theorem isNaN_normalize (n : ℤ) (s : UnpackedFloat.Sign) :
    (UnpackedFloat.normalize Format.binary64 n e s).isNaN = false := by
  unfold UnpackedFloat.normalize
  split
  · exact isNaN_roundWithAccuracy _ _ _ _
  · rfl
  · exact isNaN_roundWithAccuracy _ _ _ _

theorem inRange_round (s : UnpackedFloat.Sign) {j : ℕ} (hj : e + j = 970)
    (hm : m < (2 ^ 54 - 1) * 2 ^ j) : InRange (UnpackedFloat.round Format.binary64 s m e) := by
  unfold UnpackedFloat.round UnpackedFloat.decreaseExponent
  dsimp only
  generalize (e - Format.binary64.targetExponent (totalExponent m e)).toNat = k
  -- with more digits the exponent is smaller
  refine inRange_roundWithAccuracy _ _ _ s (show e - k + ((j + k : ℕ) : ℤ) = 970 by omega) ?_
  rw [Nat.shiftLeft_eq, Nat.pow_add, ← Nat.mul_assoc]
  exact Nat.mul_lt_mul_of_pos_right hm (Nat.two_pow_pos k)

theorem inRange_normalize (n : ℤ) (s : UnpackedFloat.Sign) {j : ℕ} (hj : e + j = 970)
    (hn : n.natAbs < (2 ^ 54 - 1) * 2 ^ j) :
    InRange (UnpackedFloat.normalize Format.binary64 n e s) := by
  unfold UnpackedFloat.normalize
  split
  · exact inRange_round _ e _ hj (by omega)
  · trivial
  · exact inRange_round _ e _ hj (by omega)

end rounding

/-! ### Sums and halves -/

variable {x y : Float}

theorem two_unpack :
    (2.0 : Float).toModel.unpack = .finite .positive (2 ^ 52) (-51) (by decide) := rfl

theorem gap_unpack :
    gap.toModel.unpack = .finite .positive (1000 * 2 ^ 43) (-43) (by decide) := rfl

/-- The sum of finite numbers is a number, if perhaps an infinite one. -/
theorem isNaN_add (hx : x.isFinite = true) (hy : y.isFinite = true) : (x + y).isNaN = false := by
  have hx : x.toModel.unpack.isFinite = true := hx
  have hy : y.toModel.unpack.isFinite = true := hy
  refine isNaN_pack ?_
  generalize x.toModel.unpack = u at hx ⊢
  generalize y.toModel.unpack = v at hy ⊢
  cases u with
  | infinity | notANumber => cases hx
  | zero s =>
    cases v with
    | infinity | notANumber => cases hy
    | zero t => cases s <;> cases t <;> rfl
    | finite t n f hn => rfl
  | finite s m e hm =>
    cases v with
    | infinity | notANumber => cases hy
    | zero t => rfl
    | finite t n f hn => exact isNaN_normalize _ _ _

/-- Half of a number is a number. -/
theorem isNaN_half (hx : x.isNaN = false) : (x / 2.0).isNaN = false := by
  have hx : x.toModel.unpack.isNaN = false := hx
  refine isNaN_pack ?_
  rw [two_unpack]
  cases hu : x.toModel.unpack with
  | notANumber => rw [hu] at hx; cases hx
  | infinity | zero => rfl
  | finite s m e hm => exact isNaN_roundWithAccuracy _ _ _ _

/-- A number and a step, written with as many digits as the smaller exponent asks for. The number
    is at most the greatest one, and the step is less than half of the last digit of that. -/
theorem natAbs_add_gap_lt (s : UnpackedFloat.Sign) {m j k l : ℕ} (hdigits : m < 2 ^ 53)
    (hk : k ≤ j + 1) (hl : 53 + l ≤ j) :
    (s.apply ((m * 2 ^ k : ℕ) : ℤ) +
        UnpackedFloat.Sign.positive.apply ((1000 * 2 ^ 43 * 2 ^ l : ℕ) : ℤ)).natAbs <
      (2 ^ 54 - 1) * 2 ^ j := by
  have hnumber : m * 2 ^ k ≤ (2 ^ 54 - 2) * 2 ^ j := calc
    m * 2 ^ k ≤ (2 ^ 53 - 1) * 2 ^ (j + 1) :=
      Nat.mul_le_mul (by omega) (Nat.pow_le_pow_right (by decide) hk)
    _ = (2 ^ 54 - 2) * 2 ^ j := by rw [Nat.pow_succ]; omega
  have hstep : 1000 * 2 ^ 43 * 2 ^ l < 2 ^ j := calc
    1000 * 2 ^ 43 * 2 ^ l < 2 ^ 53 * 2 ^ l :=
      Nat.mul_lt_mul_of_pos_right (by decide) (Nat.two_pow_pos l)
    _ = 2 ^ (53 + l) := (Nat.pow_add _ _ _).symm
    _ ≤ 2 ^ j := Nat.pow_le_pow_right (by decide) hl
  cases s with
  | positive | negative =>
    simp only [UnpackedFloat.Sign.apply]
    omega

/-- A step is so small that it does not lead beyond the greatest number. -/
theorem inRange_add_gap (hx : x.isFinite = true) :
    InRange (UnpackedFloat.add Format.binary64 x.toModel.unpack gap.toModel.unpack) := by
  have hx : x.toModel.unpack.isFinite = true := hx
  rw [gap_unpack]
  cases hu : x.toModel.unpack with
  | infinity | notANumber => rw [hu] at hx; cases hx
  | zero s => show (-43 : ℤ) ≤ 971; decide
  | finite s m e hm =>
    obtain ⟨⟨hdigits, -, -⟩, hrange⟩ := unpack_bounds hu
    unfold UnpackedFloat.add UnpackedFloat.decreaseExponent
    dsimp only
    obtain ⟨j, hj⟩ : ∃ j : ℕ, min e (-43) + j = 970 := ⟨(970 - min e (-43)).toNat, by omega⟩
    refine inRange_normalize _ _ _ hj ?_
    obtain ⟨k, hk, hkj⟩ : ∃ k : ℕ, (e - min e (-43)).toNat = k ∧ k ≤ j + 1 := ⟨_, rfl, by omega⟩
    obtain ⟨l, hl, hlj⟩ : ∃ l : ℕ, (-43 - min e (-43)).toNat = l ∧ 53 + l ≤ j :=
      ⟨_, rfl, by omega⟩
    rw [hk, hl, Nat.shiftLeft_eq, Nat.shiftLeft_eq]
    exact natAbs_add_gap_lt s hdigits hkj hlj

theorem isFinite_add_gap (hx : x.isFinite = true) : (x + gap).isFinite = true :=
  isFinite_pack (inRange_add_gap hx)

/-- Before it is rounded, half of a number is below the greatest one. -/
theorem divCore_two_bounds {m : ℕ} {e : ℤ} (hm : 0 < m) (hdigits : m < 2 ^ 53) (he : e ≤ 971) :
    let half := UnpackedFloat.divCore Format.binary64 m e (2 ^ 52) (-51)
    ∃ j : ℕ, half.2.1 + j = 970 ∧ half.1 < (2 ^ 54 - 1) * 2 ^ j := by
  intro half
  have hlog : m.log2 < 53 := (Nat.log2_lt (Nat.ne_of_gt hm)).mpr hdigits
  have hexponent : half.2.1 =
      min (e - -51) (max ((m.log2 : ℤ) + 1 + e - 2 - (53 : ℕ)) (-1074)) := rfl
  obtain ⟨j, hj⟩ : ∃ j : ℕ, half.2.1 + j = 970 := ⟨(970 - half.2.1).toNat, by omega⟩
  obtain ⟨k, hk, hkj⟩ : ∃ k : ℕ, (e - -51 - half.2.1).toNat = k ∧ k ≤ 52 + j := ⟨_, rfl, by omega⟩
  have hquotient : half.1 = m * 2 ^ k / 2 ^ 52 := by
    rw [← hk, ← Nat.shiftLeft_eq]
    rfl
  refine ⟨j, hj, ?_⟩
  have hpos := Nat.two_pow_pos j
  rw [hquotient, Nat.div_lt_iff_lt_mul (by decide)]
  calc m * 2 ^ k ≤ 2 ^ 53 * 2 ^ (52 + j) :=
        Nat.mul_le_mul hdigits.le (Nat.pow_le_pow_right (by decide) hkj)
    _ = 2 ^ 53 * (2 ^ 52 * 2 ^ j) := by rw [Nat.pow_add]
    _ < (2 ^ 54 - 1) * 2 ^ j * 2 ^ 52 := by omega

/-- Half of a finite number is finite. -/
theorem isFinite_half (hx : x.isFinite = true) : (x / 2.0).isFinite = true := by
  have hx : x.toModel.unpack.isFinite = true := hx
  refine isFinite_pack ?_
  rw [two_unpack]
  cases hu : x.toModel.unpack with
  | infinity | notANumber => rw [hu] at hx; cases hx
  | zero s => trivial
  | finite s m e hm =>
    obtain ⟨⟨hdigits, -, -⟩, hrange⟩ := unpack_bounds hu
    obtain ⟨j, hj, hhalf⟩ := divCore_two_bounds hm hdigits hrange
    exact inRange_roundWithAccuracy _ _ _ _ hj hhalf

/-- Half of a number is finite exactly if the number is. -/
theorem isFinite_half_iff (hx : x.isNaN = false) :
    (x / 2.0).isFinite = true ↔ x.isFinite = true := by
  refine ⟨fun h => ?_, isFinite_half⟩
  have hx : x.toModel.unpack.isNaN = false := hx
  show x.toModel.unpack.isFinite = true
  cases hu : x.toModel.unpack with
  | notANumber => rw [hu] at hx; cases hx
  | infinity s =>
    have hhalf : x.toModel / (2.0 : Float).toModel = pack (.infinity s) := by
      show pack (UnpackedFloat.div Format.binary64 _ _) = _
      rw [two_unpack, hu]
      cases s <;> rfl
    have h : (x.toModel / (2.0 : Float).toModel).unpack.isFinite = true := h
    rw [hhalf, isFinite_pack_infinity] at h
    cases h
  | zero s => rfl
  | finite s m e hm => rfl

/-- The middle between two finite priorities is a number, and it is finite exactly if their sum
    is. -/
theorem middle_spec (hx : x.isFinite = true) (hy : y.isFinite = true) :
    ((x + y) / 2.0).isNaN = false ∧
      (((x + y) / 2.0).isFinite = true ↔ (x + y).isFinite = true) := by
  have hsum := isNaN_add hx hy
  exact ⟨isNaN_half hsum, isFinite_half_iff hsum⟩

/-- The sum of two finite priorities that are too great. -/
example : (1.5e308 : Float).isFinite = true ∧ (1.5e308 + 1.5e308 : Float).isFinite = false := by
  decide +kernel

end Priority

end RequestCatalog
