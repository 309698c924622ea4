import RequestCatalog.Decimal.Binary

/-! # Arithmetic in 64 binary digits

  Numbers with 64 binary digits carry eleven more than a floating-point number does. Each
  operation works out the exact result and then rounds it to the nearest such number, the
  even one of two that are equally near. A chain of operations may drift away from the
  exact result in this way, and where a number lies near the middle between two others
  the drift shows.

  Only sizes are worked with. Signs are set aside before and put back after.
-/

namespace RequestCatalog

/-- The whole number nearest to a quotient, the even one of two that are equally near. -/
def nearestQuotient (a b : Nat) : Nat :=
  let low := a / b
  match Ord.compare (2 * (a % b)) b with
  | .lt => low
  | .eq => low + low % 2
  | .gt => low + 1

example : nearestQuotient 7 2 = 4 := by decide
example : nearestQuotient 5 2 = 2 := by decide
example : nearestQuotient 5 3 = 2 := by decide

/-- A number of units, `m` times two to the `q`. -/
structure Extended where
  /-- The units. -/
  m : Nat
  /-- The power of two that they are worth. -/
  q : Int
  deriving DecidableEq, Repr

namespace Extended

/-- The number nearest to `a / b` times two to the `q` that is written in so many binary
    digits, none of them worth less than two to the `least`. -/
def nearest (digits : Nat) (least : Int) (a b : Nat) (q : Int) : Extended :=
  let guess : Int := (a.log2 : Int) - b.log2
  let leading := if a * twos (-guess) < b * twos guess then guess - 1 else guess
  let unit := max (leading + q - (digits - 1)) least
  ⟨nearestQuotient (a * twos (q - unit)) (b * twos (unit - q)), unit⟩

/-- A result in 64 binary digits. -/
def rounded (a b : Nat) (q : Int) : Extended := nearest 64 (-16445) a b q

/-- A whole number. -/
def ofNat (n : Nat) : Extended := ⟨n, 0⟩

/-- The size of a finite floating-point number. -/
def ofFloat (x : Float) : Extended :=
  let size := Binary.ofFloat x
  ⟨size.m, size.q⟩

/-- A result in the 53 binary digits of a floating-point number, as if there were no largest
    one. -/
def narrowed (a b : Nat) (q : Int) : Extended := nearest 53 (-1074) a b q

/-- A number of 53 binary digits as a floating-point number. What lies beyond the largest one is
    infinite. -/
def packed (x : Extended) : Float :=
  if x.m = 0 then 0.0
  else
    let bits := (x.q + 1074).toNat * twos 52 + x.m
    Float.ofBits (min bits (2047 * twos 52)).toUInt64

/-- The nearest floating-point number. -/
def toFloat (x : Extended) : Float := (narrowed x.m 1 x.q).packed

/-- The product. -/
def mul (x y : Extended) : Extended := rounded (x.m * y.m) 1 (x.q + y.q)

/-- The quotient. -/
def div (x y : Extended) : Extended := rounded x.m y.m (x.q - y.q)

/-- The sum. -/
def add (x y : Extended) : Extended :=
  rounded (x.m * twos (x.q - y.q) + y.m * twos (y.q - x.q)) 1 (min x.q y.q)

/-- One number is at most as large as another. -/
def le (x y : Extended) : Bool :=
  x.m * twos (x.q - y.q) ≤ y.m * twos (y.q - x.q)

/-- The whole part of a number. -/
def whole (x : Extended) : Nat := x.m * twos x.q / twos (-x.q)

/-- What is left of a number without its whole part. -/
def fraction (x : Extended) : Extended := ⟨x.m * twos x.q % twos (-x.q), min x.q 0⟩

/-- Multiply `result` by a power of a number, whose exponent is given by its binary digits from
    the last one on. The number is squared from one binary digit to the next. -/
def timesPower (square result : Extended) : Nat → Nat → Extended
  | 0, _ => result
  | fuel + 1, exponent =>
    let result := if exponent % 2 = 1 then result.mul square else result
    if exponent < 2 then result
    else timesPower (square.mul square) result fuel (exponent / 2)

/-- A power of ten. -/
def powerOfTen (exponent : Nat) : Extended :=
  timesPower (ofNat 10) (ofNat 1) (exponent.log2 + 1) exponent

example : powerOfTen 19 = ⟨10000000000000000000, 0⟩ := by decide +kernel
example : (powerOfTen 3).le (ofNat 1000) = true := by decide +kernel

end Extended

end RequestCatalog
