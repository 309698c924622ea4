/-! # Decimal numerals

  A numeral is a sign, a whole number of units and a power of ten. Its value as a
  floating-point number is the nearest one. A numeral far beyond the range of
  floating-point numbers is settled by its size alone, without working out the
  power of ten.

  A numeral is written as digits with or without a point among them, and an exponent
  behind them. Whether blanks, signs or zeros may stand in front is for the reader of a
  format to say.
-/

namespace RequestCatalog

/-- A decimal numeral. -/
structure Decimal where
  /-- The numeral has a minus sign. -/
  negative : Bool
  /-- Its digits, as one whole number. -/
  units : Nat
  /-- The power of ten that the units are worth. -/
  exponent : Int
  deriving DecidableEq, Repr

namespace Decimal

/-- The number that digits write. -/
def ofDigits (digits : List Char) : Nat :=
  digits.foldl (fun n c => 10 * n + (c.toNat - 48)) 0

/-- The numeral of whole digits, digits after the point, and an exponent. -/
def ofParts (negative : Bool) (whole fraction : List Char) (exponent : Int) : Decimal where
  negative := negative
  units := ofDigits (whole ++ fraction)
  exponent := exponent - fraction.length

/-- The size of the nearest floating-point number. All finite ones lie below ten to the
    310th, and what lies below ten to the power of minus 330 is nearest to zero. -/
def magnitude (d : Decimal) : Float :=
  let size := d.exponent + (Nat.toDigits 10 d.units).length
  if d.units = 0 then 0.0
  else if size > 310 then 1.0 / 0.0
  else if size < -330 then 0.0
  else Float.ofScientific d.units (decide (d.exponent < 0)) d.exponent.natAbs

/-- The nearest floating-point number. -/
def toFloat (d : Decimal) : Float :=
  if d.negative then -d.magnitude else d.magnitude

/-! ### Written numerals -/

/-- An exponent, with the number of characters it takes. Without digits there is none. -/
def exponentOf : List Char → Int × Nat
  | mark :: rest =>
    let (negative, signs) :=
      match rest with
      | '+' :: _ => (false, 1)
      | '-' :: _ => (true, 1)
      | _ => (false, 0)
    let digits := (rest.drop signs).takeWhile Char.isDigit
    if (mark = 'e' ∨ mark = 'E') ∧ !digits.isEmpty then
      let n : Int := ofDigits digits
      (if negative then -n else n, 1 + signs + digits.length)
    else (0, 0)
  | [] => (0, 0)

/-- The digits after a point. -/
def fractionOf : List Char → List Char
  | '.' :: rest => rest.takeWhile Char.isDigit
  | _ => []

/-- A sign in front of a numeral, and what follows it. -/
def signOf : List Char → Bool × List Char
  | '-' :: rest => (true, rest)
  | '+' :: rest => (false, rest)
  | cs => (false, cs)

/-- A numeral in the usual free form: a sign, digits with a point anywhere among them, and an
    exponent. There is a digit in front of the exponent, and nothing behind it. A numeral
    without point and exponent is a whole number as it stands. -/
def read? (cs : List Char) : Option (Decimal × Bool) :=
  let (negative, unsigned) := signOf cs
  let whole := unsigned.takeWhile Char.isDigit
  let afterWhole := unsigned.drop whole.length
  let fraction := fractionOf afterWhole
  -- a point may stand without digits behind it
  let pointed := if afterWhole.head? = some '.' then 1 + fraction.length else 0
  let afterFraction := afterWhole.drop pointed
  let (power, marked) := exponentOf afterFraction
  if (whole ++ fraction).isEmpty || !(afterFraction.drop marked).isEmpty then none
  else some (ofParts negative whole fraction power, pointed + marked == 0)

/-- The whole number that a numeral without an exponent is worth. -/
def toInt (d : Decimal) : Int :=
  if d.negative then -d.units else d.units

end Decimal

end RequestCatalog
