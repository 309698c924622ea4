/-! # The exact value of a floating-point number

  A finite floating-point number is a sign and a number of units, each worth a power of
  two. All questions about its decimal digits are answered in whole numbers, so nothing
  is rounded on the way.
-/

namespace RequestCatalog

/-- Two to a power, or one where the power is negative. -/
def twos (power : Int) : Nat := Nat.pow 2 power.toNat

/-- Ten to a power, or one where the power is negative. -/
def tens (power : Int) : Nat := Nat.pow 10 power.toNat

/-- Compare `a` times ten to the `i` with `n` times two to the `j`. -/
def compareScaled (a : Nat) (i : Int) (n : Nat) (j : Int) : Ordering :=
  Ord.compare (a * tens i * twos (-j)) (n * twos j * tens (-i))

/-- The size of a finite floating-point number, `m` times two to the `q`. -/
structure Binary where
  /-- The units. -/
  m : Nat
  /-- The power of two that they are worth. -/
  q : Int
  /-- The number below is only half as far away as the number above. -/
  narrowBelow : Bool
  deriving DecidableEq, Repr

namespace Binary

/-- The size that these bits write, the sign bit left out. The bits are those of a finite
    number. -/
def ofBits (bits : Nat) : Binary :=
  let exponent : Nat := bits / twos 52 % 2048
  let fraction : Nat := bits % twos 52
  if exponent = 0 then ⟨fraction, -1074, false⟩
  else ⟨twos 52 + fraction, (exponent : Int) - 1075, fraction = 0 ∧ exponent > 1⟩

/-- The size of a finite number. -/
def ofFloat (x : Float) : Binary := ofBits (x.toBits.toNat % twos 63)

/-- The number has a minus sign. Zero may have one. -/
def isNegative (x : Float) : Bool := x.toBits.toNat / twos 63 = 1

/-- How many of a unit of ten to the `power` the number holds. -/
def count (x : Binary) (power : Int) : Nat :=
  x.m * twos x.q * tens (-power) / (twos (-x.q) * tens power)

/-- The power of ten of the leading digit. It lies between those of the smallest and the
    largest number. -/
def leading (x : Binary) : Int :=
  let powers := (List.range 640).map fun n : Nat => (308 : Int) - n
  (powers.find? fun power => x.count power != 0).getD (-324)

/-- The whole number of this size, if the size is a whole number. -/
def whole? (x : Binary) : Option Nat :=
  let size := x.m * twos x.q
  if size % twos (-x.q) = 0 then some (size / twos (-x.q)) else none

/-- The whole number that a floating-point number is worth, if it is worth one. -/
def wholeValue? (x : Float) : Option Int :=
  if x.isFinite then
    (ofFloat x).whole?.map fun n => if isNegative x then -(n : Int) else n
  else none

end Binary

end RequestCatalog
