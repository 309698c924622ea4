import RequestCatalog.Decimal.Extended
import RequestCatalog.Decimal.Layout

/-! # Floating-point numbers in fifteen digits

  Where a number meets a column of texts it is turned into text first, in fifteen digits.
  The number is brought between one and ten, half a unit of the fifteenth digit is added,
  and then the digits are drawn off one by one. All of this is done in 64 binary digits,
  and every step is rounded. So a number that lies in the middle between two texts, or next
  to it, may become either of them.
-/

namespace RequestCatalog

namespace Extended

/-- Multiply a scale by a power of ten for as long as the number holds the larger scale. The
    scale comes with its own power of ten. -/
def enlarge (x factor : Extended) (digits : Int) : Nat → Extended × Int → Extended × Int
  | 0, scale => scale
  | fuel + 1, (scale, power) =>
    let larger := factor.mul scale
    if larger.le x ∧ power ≤ 350 then enlarge x factor digits fuel (larger, power + digits)
    else (scale, power)

/-- Multiply a number by a power of ten for as long as it is below a bound. The number comes
    with the power of ten that it is worth. -/
def lift (bound factor : Extended) (digits : Int) : Nat → Extended × Int → Extended × Int
  | 0, x => x
  | fuel + 1, (x, power) =>
    if bound.le x then (x, power) else lift bound factor digits fuel (x.mul factor, power - digits)

/-- A positive number brought between one and ten, with the power of ten that this is worth.
    It is done in big steps first: a hundred digits at once, then ten, then one. -/
def normalised (x : Extended) : Extended × Int :=
  let (scale, power) := enlarge x (ofNat 10) 1 16 (enlarge x (ofNat 10000000000) 10 16
    (enlarge x (ofFloat 1e100) 100 16 (ofNat 1, 0)))
  lift (ofNat 1) (ofNat 10) 1 16
    (lift (ofFloat 1e-8) (ofNat 100000000) 8 64 (x.div scale, power))

/-- Half a unit of the fifteenth digit of a number between one and ten. -/
def halfUnit : Extended := ofFloat 5.000000000000001e-15

/-- Round a number between one and ten to fifteen digits, the rest still to be cut off. If ten
    is reached, one digit more stands in front. -/
def withHalfUnit (x : Extended) (power : Int) : Extended × Int :=
  let x := x.add halfUnit
  if (ofNat 10).le x then (x.mul (ofFloat 0.1), power + 1) else (x, power)

/-- Draw off digits, behind those that were drawn already. -/
def drawn : Nat → Nat → Extended → Nat
  | 0, units, _ => units
  | digits + 1, units, x => drawn digits (10 * units + x.whole) (x.fraction.mul (ofNat 10))

/-- A positive number in fifteen digits, with the power of ten of the last one. -/
def fifteenDigits (x : Extended) : Nat × Int :=
  let (x, power) := x.normalised
  let (x, power) := x.withHalfUnit power
  (drawn 15 0 x, power - 14)

end Extended

namespace Rounded

/-- Numbers below ten to the 15th are written out, and there is always a point. -/
def style : Style := ⟨15, true⟩

/-- The written form of a floating-point number that is not NaN. Zero has no sign. -/
def render (x : Float) : String :=
  let sign := if Binary.isNegative x then "-" else ""
  if x.isInf then sign ++ "Inf"
  else if x == 0.0 then "0.0"
  else
    let (units, power) := (Extended.ofFloat x).fifteenDigits
    sign ++ style.render units power

example : render 0.1 = "0.1" := by decide +kernel
example : render 1e20 = "1.0e+20" := by decide +kernel
-- the middle between two texts goes down here and up there
example : render 731111728861254.5 = "731111728861254.0" := by decide +kernel
example : render 171054924364740.5 = "171054924364741.0" := by decide +kernel

end Rounded

end RequestCatalog
