import RequestCatalog.Proofs.Priority.Arithmetic

/-! # A step does not lead back

  The place behind the last sibling is one step past it. A great priority absorbs the step, but
  the sum is never smaller than the priority (`le_add_gap`).

  * A number whose digits and exponent are canonical is stored as it is (`unpack_pack`).
  * Rounding leaves canonical digits (`round_eq`), so a sum is what rounding leaves of it.
  * Rounding does not pass a canonical number: what is not smaller than one is not rounded to
    a smaller number (`IsRounded.le`), and what is smaller than one is not rounded to a
    greater number (`IsRounded.ge`).
-/

namespace RequestCatalog

namespace Priority

open Float.Model

/-! ### Storing -/

section packing

variable {spec : Format} {sign : UnpackedFloat.Sign} {exponent : BitVec spec.exponentBits}
  {mantissa : BitVec spec.mantissaBitsWithoutImplicit}

theorem unpackSign_packComponents :
    UnpackedFloat.Sign.ofBitVec (UnpackedFloat.unpackSign
      (UnpackedFloat.packComponents spec sign exponent mantissa)) = sign := by
  have hbit : UnpackedFloat.unpackSign (UnpackedFloat.packComponents spec sign exponent mantissa) =
      sign.toBitVec := by
    ext i hi
    obtain rfl : i = 0 := by omega
    simp [UnpackedFloat.unpackSign, UnpackedFloat.packComponents, BitVec.getLsbD_eq_getElem,
      BitVec.getLsbD_append, BitVec.getElem_append]
  rw [hbit]
  cases sign <;> rfl

/-- The leading digit is put back. -/
theorem unpack_packComponents (hfinite : exponent ≠ -1#_) (hnormal : exponent ≠ 0#_) :
    UnpackedFloat.unpack spec (UnpackedFloat.packComponents spec sign exponent mantissa) =
      .finite sign (1#1 ++ mantissa).toNat
        (exponent.toNat - (spec.exponentBias + spec.mantissaBitsWithoutImplicit)) (by simp) := by
  simp only [UnpackedFloat.unpack, UnpackedFloat.unpackMantissa_packComponents,
    UnpackedFloat.unpackExponent_packComponents, unpackSign_packComponents, if_neg hfinite,
    if_neg hnormal]

/-- With the least exponent there is no leading digit. -/
theorem unpack_packComponents_zero (hzero : (0#_ : BitVec spec.exponentBits) ≠ -1#_)
    (hpos : mantissa ≠ 0#_) :
    UnpackedFloat.unpack spec (UnpackedFloat.packComponents spec sign 0#_ mantissa) =
      .finite sign mantissa.toNat
        (-(spec.exponentBias + spec.mantissaBitsWithoutImplicit) + 1)
        (by simpa [BitVec.toNat_pos, BitVec.pos_iff_ne_zero] using hpos) := by
  simp only [UnpackedFloat.unpack, UnpackedFloat.unpackMantissa_packComponents,
    UnpackedFloat.unpackExponent_packComponents, unpackSign_packComponents, if_neg hzero,
    dif_neg hpos, if_true, BitVec.toNat_ofNat, Nat.zero_mod, Nat.cast_zero, zero_sub]

end packing

variable {m n r : ℕ} {e f : ℤ} {s : UnpackedFloat.Sign}

/-- The number of digits tells whether the exponent is the least one. -/
theorem IsCanonical.log2_eq_iff (h : IsCanonical m e) (hm : 0 < m) :
    m.log2 + 1 = 53 ↔ 2 ^ 52 ≤ m := by
  have hhigh := (Nat.log2_lt (Nat.ne_of_gt hm)).mpr h.lt
  rw [← Nat.le_log2 (Nat.ne_of_gt hm)]
  omega

/-- What is canonical and in range is stored as it is. -/
theorem unpack_pack_finite {hm : 0 < m} (h : IsCanonical m e) (he : e ≤ 971) :
    (pack (.finite s m e hm)).unpack = .finite s m e hm := by
  have hlog := h.log2_eq_iff hm
  obtain ⟨hlt, hleast, hfull⟩ := h
  obtain ⟨biased, hbiased⟩ : ∃ biased : ℕ, e + (1023 : ℕ) + (52 : ℕ) = biased :=
    Int.eq_ofNat_of_zero_le (by omega)
  have hbias : Format.binary64.exponentBias = 1023 := rfl
  have hdigits : Format.binary64.mantissaBitsWithoutImplicit = 52 := rfl
  show UnpackedFloat.unpack Format.binary64
    (if 2048 ≤ (e + (1023 : ℕ) + (52 : ℕ)).toNat + 1 then
        UnpackedFloat.packedInfinity Format.binary64 s
      else if m.log2 + 1 = 53 then
        UnpackedFloat.packComponents Format.binary64 s
          (BitVec.ofNat 11 (e + (1023 : ℕ) + (52 : ℕ)).toNat) (BitVec.ofNat 52 m)
      else UnpackedFloat.packComponents Format.binary64 s (0#11) (BitVec.ofNat 52 m)) = _
  rw [hbiased, Int.toNat_natCast, if_neg (by omega)]
  by_cases hnormal : 2 ^ 52 ≤ m
  · have hexponent : (BitVec.ofNat 11 biased).toNat = biased := by
      rw [BitVec.toNat_ofNat, Nat.mod_eq_of_lt (by omega)]
    have hmantissa : (BitVec.ofNat 52 m).toNat = m - 2 ^ 52 := by
      rw [BitVec.toNat_ofNat]
      omega
    have hother : ∀ b : BitVec 11, b.toNat = 2047 ∨ b.toNat = 0 → BitVec.ofNat 11 biased ≠ b := by
      rintro b hb rfl
      rw [hexponent] at hb
      omega
    rw [if_pos (hlog.mpr hnormal), unpack_packComponents (hother _ (.inl rfl))
      (hother _ (.inr rfl)), UnpackedFloat.finite.injEq]
    refine ⟨rfl, ?_, ?_⟩
    · exact (toNat_one_append _).trans (by rw [hmantissa, Nat.add_sub_cancel' hnormal])
    · rw [hexponent, hbias, hdigits]
      omega
  · -- only the least exponent allows less digits
    obtain rfl : e = -1074 := by
      by_contra hne
      exact hnormal (hfull (by omega))
    have hmantissa : (BitVec.ofNat 52 m).toNat = m := by
      rw [BitVec.toNat_ofNat, Nat.mod_eq_of_lt (by omega)]
    have hpos : BitVec.ofNat 52 m ≠ 0#52 := by
      intro hzero
      rw [hzero] at hmantissa
      exact Nat.ne_of_lt hm hmantissa
    rw [if_neg (hlog.not.mpr hnormal), unpack_packComponents_zero (by decide) hpos,
      UnpackedFloat.finite.injEq]
    exact ⟨rfl, hmantissa, by rw [hbias, hdigits]; rfl⟩

/-! ### Rounding between canonical numbers -/

/-- The exponent of the last digit that rounding keeps, before a carry. -/
def lastExponent (n : ℕ) (e : ℤ) : ℤ := max (n.log2 + e - 52) (-1074)

theorem log2_mul_two_pow (hn : 0 < n) (k : ℕ) : (n * 2 ^ k).log2 = n.log2 + k := by
  rw [Nat.log2_eq_iff (Nat.ne_of_gt (Nat.mul_pos hn (Nat.two_pow_pos k)))]
  have hlow := Nat.mul_le_mul_right (2 ^ k) (Nat.log2_self_le (Nat.ne_of_gt hn))
  have hhigh := Nat.mul_lt_mul_of_pos_right (Nat.lt_log2_self (n := n)) (Nat.two_pow_pos k)
  rw [← Nat.pow_add] at hlow hhigh
  exact ⟨hlow, by rwa [Nat.add_right_comm] at hhigh⟩

theorem le_roundedMantissa (em : UnpackedFloat.ExtendedMantissa) :
    em.mantissa ≤ em.roundedMantissa := by
  obtain ⟨m, roundBit, stickyBit⟩ := em
  cases roundBit <;> cases stickyBit <;>
    simp [UnpackedFloat.ExtendedMantissa.roundedMantissa,
      UnpackedFloat.ExtendedMantissa.accuracy, UnpackedFloat.Accuracy.roundToNearestEven]

/-- What rounding may leave of the digits `n` at the exponent `e`. It keeps the digits up to the
    last exponent, perhaps with one added, and that may carry. -/
structure IsRounded (n : ℕ) (e : ℤ) (r : ℕ) (f : ℤ) : Prop where
  canonical : IsCanonical r f
  digits : ∃ kept : ℕ,
    (∀ d : ℕ, e + d = lastExponent n e → n / 2 ^ d ≤ kept ∧ kept ≤ n / 2 ^ d + 1) ∧
      (f = lastExponent n e ∧ r = kept ∨
        f = lastExponent n e + 1 ∧ r = 2 ^ 52 ∧ kept = 2 ^ 53)

/-- Digits that were rounded are shifted once more if there was a carry. -/
theorem shiftToTargetExponent_carry (hr : r ≤ 2 ^ 53) (he : -1074 ≤ e) :
    let final := UnpackedFloat.shiftToTargetExponent Format.binary64 r e .exact
    r < 2 ^ 53 ∧ final.1.mantissa = r ∧ final.2 = e ∨
      r = 2 ^ 53 ∧ final.1.mantissa = 2 ^ 52 ∧ final.2 = e + 1 := by
  intro final
  have hexponent : final.2 = max e (max (r.log2 + e - 52) (-1074)) :=
    shiftToTargetExponent_exponent r e .exact
  have hmantissa : ∀ k : ℕ, final.2 = e + k → final.1.mantissa = r / 2 ^ k := by
    intro k hk
    rw [shiftToTargetExponent_shift r e .exact hk, shiftRight_mantissa,
      ofMantissaAndAccuracy_mantissa]
  rcases hr.lt_or_eq with hlt | hcarry
  · left
    have hlog : r.log2 < 53 := by
      by_cases hzero : r = 0
      · subst hzero
        decide
      · exact (Nat.log2_lt hzero).mpr hlt
    have hkeep : final.2 = e := by omega
    exact ⟨hlt, by rw [hmantissa 0 (by omega), Nat.pow_zero, Nat.div_one], hkeep⟩
  · right
    have hlog : r.log2 = 53 := by rw [hcarry, Nat.log2_two_pow]
    have hnext : final.2 = e + 1 := by omega
    exact ⟨hcarry, by rw [hmantissa 1 (by omega), hcarry]; rfl, hnext⟩

/-- Rounding drops the digits behind the last exponent. -/
theorem roundWithAccuracy_eq (hn : 0 < n) {d : ℕ} (hd : e + d = lastExponent n e) :
    ∃ r f, IsRounded n e r f ∧ UnpackedFloat.roundWithAccuracy Format.binary64 s n e .exact =
      if h : r = 0 then .zero s else .finite s r f (Nat.pos_of_ne_zero h) := by
  unfold UnpackedFloat.roundWithAccuracy
  dsimp only
  have hexponent : (UnpackedFloat.shiftToTargetExponent Format.binary64 n e .exact).2 = e + d := by
    rw [shiftToTargetExponent_exponent, hd, lastExponent]
    unfold lastExponent at hd
    omega
  have hmantissa : (UnpackedFloat.shiftToTargetExponent Format.binary64 n e .exact).1.mantissa =
      n / 2 ^ d := by
    rw [shiftToTargetExponent_shift n e .exact hexponent, shiftRight_mantissa,
      ofMantissaAndAccuracy_mantissa]
  have hdigits := shiftToTargetExponent_mantissa_lt n e .exact
  have hlow := le_roundedMantissa (UnpackedFloat.shiftToTargetExponent Format.binary64 n e .exact).1
  have hhigh :=
    roundedMantissa_le (UnpackedFloat.shiftToTargetExponent Format.binary64 n e .exact).1
  rw [hmantissa] at hdigits hlow hhigh
  rw [hexponent]
  generalize (UnpackedFloat.shiftToTargetExponent Format.binary64 n e
    .exact).1.roundedMantissa = kept at hlow hhigh ⊢
  have hkept : ∀ k : ℕ, e + k = lastExponent n e → n / 2 ^ k ≤ kept ∧ kept ≤ n / 2 ^ k + 1 := by
    intro k hk
    obtain rfl : k = d := by omega
    exact ⟨hlow, hhigh⟩
  have hleast : -1074 ≤ e + d := by rw [hd]; exact le_max_right _ _
  -- unless the exponent is the least one, all 53 digits are kept
  have hfull : -1074 < e + d → 2 ^ 52 ≤ n / 2 ^ d := by
    intro hless
    have hlog : 52 + d = n.log2 := by unfold lastExponent at hd; omega
    rw [Nat.le_div_iff_mul_le (Nat.two_pow_pos d), ← Nat.pow_add, hlog]
    exact Nat.log2_self_le (Nat.ne_of_gt hn)
  refine ⟨_, _, ?_, rfl⟩
  rcases shiftToTargetExponent_carry (show kept ≤ 2 ^ 53 by omega) hleast with
    ⟨hlt, hsame, hlast⟩ | ⟨hfull, hcarry, hnext⟩
  · rw [hsame, hlast]
    exact ⟨⟨hlt, hleast, fun h => (hfull h).trans hlow⟩, kept, hkept, .inl ⟨hd, rfl⟩⟩
  · rw [hcarry, hnext]
    exact ⟨⟨by decide, by omega, fun _ => le_rfl⟩, kept, hkept, .inr ⟨by rw [hd], rfl, hfull⟩⟩

/-- Before they are rounded, digits are added if the exponent is greater than the last one. -/
theorem round_eq (hn : 0 < n) (e : ℤ) (s : UnpackedFloat.Sign) :
    ∃ r f, IsRounded n e r f ∧ UnpackedFloat.round Format.binary64 s n e =
      if h : r = 0 then .zero s else .finite s r f (Nat.pos_of_ne_zero h) := by
  have htarget : Format.binary64.targetExponent (totalExponent n e) = lastExponent n e := by
    show max ((n.log2 : ℤ) + 1 + e - (53 : ℕ)) (-1074) = _
    unfold lastExponent
    omega
  unfold UnpackedFloat.round UnpackedFloat.decreaseExponent
  dsimp only
  rw [htarget, Nat.shiftLeft_eq]
  generalize hk : (e - lastExponent n e).toNat = k
  -- the place of the leading digit is the same
  have hlast : lastExponent (n * 2 ^ k) (e - k) = lastExponent n e := by
    unfold lastExponent
    rw [log2_mul_two_pow hn]
    push_cast
    congr 1
    ring
  obtain ⟨d, hd⟩ : ∃ d : ℕ, e - k + d = lastExponent n e :=
    ⟨(lastExponent n e - (e - k)).toNat, by omega⟩
  obtain ⟨r, f, ⟨hcanonical, kept, hkept, hdigits⟩, hround⟩ :=
    roundWithAccuracy_eq (s := s) (Nat.mul_pos hn (Nat.two_pow_pos k)) (hd.trans hlast.symm)
  rw [hlast] at hkept hdigits
  refine ⟨r, f, ⟨hcanonical, kept, fun j hj => ?_, hdigits⟩, hround⟩
  -- what is dropped is dropped from the digits themselves, since then none were added
  obtain rfl : k = 0 := by omega
  simpa using hkept j (by simpa using hj)

section between

variable (h : IsCanonical m e)

include h

/-- What is not smaller than a canonical number is not rounded to a smaller one. -/
theorem IsRounded.le {c : ℤ} {d : ℕ} (hr : IsRounded n c r f) (hm : 0 < m) (hd : c + d = e)
    (hle : m * 2 ^ d ≤ n) : e < f ∨ e = f ∧ m ≤ r := by
  have hn : 0 < n := (Nat.mul_pos hm (Nat.two_pow_pos d)).trans_le hle
  have hlast : e ≤ lastExponent n c := by
    rcases h.least.lt_or_eq with hless | hleast
    · have hlog : 52 + d ≤ n.log2 := by
        rw [Nat.le_log2 (Nat.ne_of_gt hn), Nat.pow_add]
        exact (Nat.mul_le_mul_right _ (h.full hless)).trans hle
      exact le_max_of_le_left (by omega)
    · exact hleast ▸ le_max_right _ _
  obtain ⟨kept, hkept, ⟨rfl, rfl⟩ | ⟨rfl, -⟩⟩ := hr.digits
  · rcases hlast.lt_or_eq with hless | hsame
    · exact .inl hless
    · have hquotient : m ≤ n / 2 ^ d := (Nat.le_div_iff_mul_le (Nat.two_pow_pos d)).mpr hle
      exact .inr ⟨hsame, hquotient.trans (hkept d (hd.trans hsame)).1⟩
  · exact .inl (by omega)

/-- What is smaller than a canonical number is not rounded to a greater one. -/
theorem IsRounded.ge {c : ℤ} {d : ℕ} (hr : IsRounded n c r f) (hn : 0 < n) (hd : c + d = e)
    (hlt : n < m * 2 ^ d) : f < e ∨ f = e ∧ r ≤ m := by
  have hlast : lastExponent n c ≤ e := by
    have hlog : n.log2 < 53 + d := by
      rw [Nat.log2_lt (Nat.ne_of_gt hn), Nat.pow_add]
      exact hlt.trans (Nat.mul_lt_mul_of_pos_right h.lt (Nat.two_pow_pos d))
    exact max_le (by omega) h.least
  have hquotient : n / 2 ^ d < m := (Nat.div_lt_iff_lt_mul (Nat.two_pow_pos d)).mpr hlt
  obtain ⟨kept, hkept, ⟨rfl, rfl⟩ | ⟨rfl, rfl, rfl⟩⟩ := hr.digits
  · rcases hlast.lt_or_eq with hless | hsame
    · exact .inl hless
    · have hkept := (hkept d (hd.trans hsame.symm)).2
      exact .inr ⟨hsame, by omega⟩
  · rcases hlast.lt_or_eq with hless | hsame
    · have hleast : -1074 ≤ lastExponent n c := le_max_right _ _
      rcases (Int.add_one_le_iff.mpr hless).lt_or_eq with hbelow | hnext
      · exact .inl hbelow
      · exact .inr ⟨hnext, h.full (by omega)⟩
    · -- a carry would need more digits than there are
      have hcarry := (hkept d (hd.trans hsame.symm)).2
      have hdigits := h.lt
      omega

end between

/-! ### Adding a step -/

/-- The number is zero, or its digits and exponent are canonical. -/
def IsStorable : UnpackedFloat → Prop
  | .finite _ m e _ => IsCanonical m e
  | .zero _ => True
  | .infinity _ | .notANumber => False

theorem unpack_pack {u : UnpackedFloat} (h : IsStorable u) (hu : InRange u) :
    (pack u).unpack = u := by
  cases u with
  | notANumber | infinity => cases h
  | zero s => cases s <;> rfl
  | finite s m e hm => exact unpack_pack_finite h hu

/-- What rounding leaves can be stored. -/
theorem isStorable_round (hn : 0 < n) (e : ℤ) (s : UnpackedFloat.Sign) :
    IsStorable (UnpackedFloat.round Format.binary64 s n e) := by
  obtain ⟨r, f, hr, hround⟩ := round_eq hn e s
  rw [hround]
  split
  · trivial
  · exact hr.canonical

theorem rankOf_negative_le_zero (hm : 0 < m) (t : UnpackedFloat.Sign) :
    rankOf (.finite .negative m e hm) ≤ rankOf (.zero t) :=
  Prod.Lex.toLex_le_toLex.mpr (.inl (show (-1 : ℤ) < 0 by decide))

theorem rankOf_zero_le_positive (hm : 0 < m) (t : UnpackedFloat.Sign) :
    rankOf (.zero t) ≤ rankOf (.finite .positive m e hm) :=
  Prod.Lex.toLex_le_toLex.mpr (.inl (show (0 : ℤ) < 1 by decide))

/-- A positive number is not rounded to one below zero. -/
theorem rankOf_zero_le_round (hn : 0 < n) (e : ℤ) :
    rankOf (.zero .positive) ≤ rankOf (UnpackedFloat.round Format.binary64 .positive n e) := by
  obtain ⟨r, f, hr, hround⟩ := round_eq hn e .positive
  rw [hround]
  split
  · exact le_rfl
  · exact rankOf_zero_le_positive _ _

theorem normalize_natCast (hn : 0 < n) (e : ℤ) (s : UnpackedFloat.Sign) :
    UnpackedFloat.normalize Format.binary64 n e s =
      UnpackedFloat.round Format.binary64 .positive n e := by
  unfold UnpackedFloat.normalize
  rw [compare_gt_iff_gt.mpr (Int.natCast_pos.mpr hn)]
  rfl

theorem normalize_neg_natCast (hn : 0 < n) (e : ℤ) (s : UnpackedFloat.Sign) :
    UnpackedFloat.normalize Format.binary64 (-n) e s =
      UnpackedFloat.round Format.binary64 .negative n e := by
  unfold UnpackedFloat.normalize
  rw [compare_lt_iff_lt.mpr (Int.neg_neg_of_pos (Int.natCast_pos.mpr hn)), Int.neg_neg]
  rfl

section sums

variable {c : ℤ} {d g : ℕ} {hm : 0 < m} (h : IsCanonical m e) (hd : c + d = e)

include h hd

/-- Digits that are not less than those of a number are not rounded to a smaller one. -/
theorem rankOf_le_round (hle : m * 2 ^ d ≤ n) :
    rankOf (.finite .positive m e hm) ≤
      rankOf (UnpackedFloat.round Format.binary64 .positive n c) := by
  have hn : 0 < n := (Nat.mul_pos hm (Nat.two_pow_pos d)).trans_le hle
  obtain ⟨r, f, hr, hround⟩ := round_eq hn c .positive
  have hbound := hr.le h hm hd hle
  have hpos : r ≠ 0 := by
    rcases hbound with hless | ⟨-, hless⟩
    · have hfull := hr.canonical.full (h.least.trans_lt hless)
      omega
    · omega
  rw [hround, dif_neg hpos]
  refine Prod.Lex.toLex_le_toLex.mpr (.inr ⟨rfl, Prod.Lex.toLex_le_toLex.mpr ?_⟩)
  exact hbound.imp id (And.imp id Int.ofNat_le.mpr)

/-- Digits that are less are not rounded to a greater number, and below zero not to a smaller
    one. -/
theorem rankOf_le_round_negative (hn : 0 < n) (hlt : n < m * 2 ^ d) :
    rankOf (.finite .negative m e hm) ≤
      rankOf (UnpackedFloat.round Format.binary64 .negative n c) := by
  obtain ⟨r, f, hr, hround⟩ := round_eq hn c .negative
  rw [hround]
  split
  · exact rankOf_negative_le_zero hm _
  · refine Prod.Lex.toLex_le_toLex.mpr (.inr ⟨rfl, Prod.Lex.toLex_le_toLex.mpr ?_⟩)
    rcases hr.ge h hn hd hlt with hless | ⟨rfl, hless⟩
    · exact .inl (Int.neg_lt_neg hless)
    · exact .inr ⟨rfl, Int.neg_le_neg (Int.ofNat_le.mpr hless)⟩

/-- A number and what is added to it, rounded, is not smaller than the number. -/
theorem rankOf_le_normalize (hg : 0 < g) :
    let sum := UnpackedFloat.normalize Format.binary64
      (s.apply ((m * 2 ^ d : ℕ) : ℤ) + (g : ℕ)) c .positive
    IsStorable sum ∧ rankOf (.finite s m e hm) ≤ rankOf sum := by
  generalize hwhole : m * 2 ^ d = whole
  cases s with
  | positive =>
    have hsum : UnpackedFloat.Sign.positive.apply (whole : ℤ) + (g : ℕ) = (whole + g : ℕ) :=
      (Int.natCast_add _ _).symm
    rw [hsum, normalize_natCast (by omega)]
    exact ⟨isStorable_round (by omega) c _, rankOf_le_round h hd (by omega)⟩
  | negative =>
    rcases lt_trichotomy g whole with hless | rfl | hmore
    · have hsum : UnpackedFloat.Sign.negative.apply (whole : ℤ) + (g : ℕ) = -(whole - g : ℕ) := by
        simp only [UnpackedFloat.Sign.apply]
        omega
      rw [hsum, normalize_neg_natCast (by omega)]
      exact ⟨isStorable_round (by omega) c _,
        rankOf_le_round_negative h hd (by omega) (by omega)⟩
    · have hsum : UnpackedFloat.Sign.negative.apply (g : ℤ) + (g : ℕ) = 0 := Int.add_left_neg _
      rw [hsum]
      exact ⟨trivial, rankOf_negative_le_zero hm _⟩
    · have hsum : UnpackedFloat.Sign.negative.apply (whole : ℤ) + (g : ℕ) = (g - whole : ℕ) := by
        simp only [UnpackedFloat.Sign.apply]
        omega
      rw [hsum, normalize_natCast (by omega)]
      exact ⟨isStorable_round (by omega) c _,
        (rankOf_negative_le_zero hm _).trans (rankOf_zero_le_round (by omega) c)⟩

end sums

/-- The step that a finite number makes, before the sum is stored. -/
theorem rankOf_le_add_gap {x : Float} (hx : x.isFinite = true) :
    let sum := UnpackedFloat.add Format.binary64 x.toModel.unpack gap.toModel.unpack
    IsStorable sum ∧ rankOf x.toModel.unpack ≤ rankOf sum := by
  have hx : x.toModel.unpack.isFinite = true := hx
  rw [gap_unpack]
  cases hu : x.toModel.unpack with
  | infinity | notANumber => rw [hu] at hx; cases hx
  | zero s =>
    exact ⟨⟨by decide, by decide, fun _ => by decide⟩, rankOf_zero_le_positive (by decide) s⟩
  | finite s m e hm =>
    unfold UnpackedFloat.add UnpackedFloat.decreaseExponent UnpackedFloat.Sign.apply
    dsimp only
    rw [Nat.shiftLeft_eq, Nat.shiftLeft_eq]
    exact rankOf_le_normalize (unpack_bounds hu).1 (by omega)
      (Nat.mul_pos (by decide) (Nat.two_pow_pos _))

/-- What is infinite stays as it is. -/
theorem unpack_add_gap_of_infinite {x : Float} (hx : x.isNaN = false)
    (hinfinite : ¬ x.isFinite = true) : (x + gap).toModel.unpack = x.toModel.unpack := by
  have hx : x.toModel.unpack.isNaN = false := hx
  have hinfinite : ¬ x.toModel.unpack.isFinite = true := hinfinite
  show (pack (UnpackedFloat.add Format.binary64 x.toModel.unpack gap.toModel.unpack)).unpack = _
  rw [gap_unpack]
  cases hu : x.toModel.unpack with
  | infinity s => cases s <;> rfl
  | notANumber => rw [hu] at hx; cases hx
  | zero | finite => rw [hu] at hinfinite; exact absurd rfl hinfinite

/-- A step does not lead to a smaller priority. -/
theorem le_add_gap {x : Float} (hx : x.isNaN = false) : x ≤ x + gap := by
  suffices hrank : (x + gap).toModel.unpack.isNaN = false ∧
      rankOf x.toModel.unpack ≤ rankOf (x + gap).toModel.unpack from (le_iff hx hrank.1).mpr hrank.2
  by_cases hfinite : x.isFinite = true
  · obtain ⟨hstorable, hrank⟩ := rankOf_le_add_gap hfinite
    have hsum : (x + gap).toModel.unpack = UnpackedFloat.add Format.binary64
        x.toModel.unpack gap.toModel.unpack :=
      unpack_pack hstorable (inRange_add_gap hfinite)
    exact ⟨isNaN_add hfinite (by decide +kernel), hsum ▸ hrank⟩
  · rw [unpack_add_gap_of_infinite hx hfinite]
    exact ⟨hx, le_rfl⟩

end Priority

end RequestCatalog
