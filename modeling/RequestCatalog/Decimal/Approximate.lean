import RequestCatalog.Decimal
import RequestCatalog.Decimal.Extended

/-! # Numerals read in 64 bits

  Where a numeral meets a column of numbers, only as many of its leading digits are read as
  64 bits hold. They are brought to their place by a power of ten in 64 binary digits. The
  number that is read may lie next to the one that is nearest to the numeral.
-/

namespace RequestCatalog

namespace Decimal

/-- From this number on no further digit is read, so that every digit still fits. -/
def greatestRead : Nat := 922337203685477579

/-- The digits of a numeral that are read, with the power of ten of the last one: eighteen,
    and one more if they are below the limit. -/
def leading (d : Decimal) : Nat × Int :=
  let length := (Nat.toDigits 10 d.units).length
  let first (digits : Nat) : Nat × Int :=
    let rest := length - digits
    (d.units / Nat.pow 10 rest, d.exponent + rest)
  if greatestRead ≤ (first 18).1 then first 18 else first 19

/-- Bring a power of ten nearer to none: zeros are put behind the digits while there is room,
    or taken away while there are any. -/
def settle : Nat → Nat × Int → Nat × Int
  | 0, d => d
  | fuel + 1, (units, exponent) =>
    if 0 < exponent ∧ units ≤ greatestRead then settle fuel (10 * units, exponent - 1)
    else if exponent < 0 ∧ units % 10 = 0 then settle fuel (units / 10, exponent + 1)
    else (units, exponent)

/-- Units multiplied by a power of ten with so many zeros, or divided by it. -/
def shifted (units digits : Nat) (down : Bool) : Extended :=
  let scale := Extended.powerOfTen digits
  if down then (Extended.ofNat units).div scale else (Extended.ofNat units).mul scale

/-- The largest power of ten that is a floating-point number. -/
def farthest : Extended := Extended.ofFloat 1e308

/-- The size of units that are worth a power of ten. Powers beyond ten to the 307th are applied
    in two steps, the second one in floating-point numbers. -/
def scaled (units : Nat) (exponent : Int) : Float :=
  let digits := exponent.natAbs
  let down := decide (exponent < 0)
  if digits = 0 then (Extended.ofNat units).toFloat
  else if digits ≤ 307 then (shifted units digits down).toFloat
  else if digits < 342 then
    let step := shifted units (digits - 308) down
    let near := Extended.narrowed step.m 1 step.q
    if down then (Extended.narrowed near.m farthest.m (near.q - farthest.q)).packed
    else (Extended.narrowed (near.m * farthest.m) 1 (near.q + farthest.q)).packed
  else if down then 0.0 else 1.0 / 0.0

/-- The number that is read for a numeral. -/
def approximate (d : Decimal) : Float :=
  let size :=
    if d.units = 0 then 0.0
    else
      let (units, exponent) := settle 20 d.leading
      scaled units exponent
  if d.negative then -size else size

example : approximate ⟨true, 15, -1⟩ = -1.5 := by decide +kernel
-- the number below the nearest one
example : approximate ⟨false, 9163141034408632, -310⟩ = Float.ofBits 0x02e2ba220f976478 := by
  decide +kernel

end Decimal

end RequestCatalog
