import RequestCatalog.Decimal
import RequestCatalog.Decimal.Binary
import RequestCatalog.Decimal.Layout

/-! # Floating-point numbers in few digits

  A floating-point number stands for an interval of real numbers, those that are nearest
  to it. It is written with as few digits as name a number of that interval. For one
  digit, two digits and so on, the two decimal neighbours of the number are tried. The
  nearer neighbour is taken where both would do.
-/

namespace RequestCatalog

namespace Binary

/-- The decimal `digits` times ten to the `power` lies in the interval of the number. The
    ends belong to the interval if the units are even. -/
def covers (x : Binary) (digits : Nat) (power : Int) : Bool :=
  let least := if x.narrowBelow then 4 * x.m - 1 else 4 * x.m - 2
  let closed := x.m % 2 = 0
  let fromBelow := compareScaled digits power least (x.q - 2)
  let fromAbove := compareScaled digits power (4 * x.m + 2) (x.q - 2)
  (fromBelow == .gt || (closed && fromBelow == .eq)) &&
    (fromAbove == .lt || (closed && fromAbove == .eq))

/-- The neighbour on the grid of this power that lies in the interval, the nearer if both do
    and the even one if they are equally near. -/
def neighbour? (x : Binary) (power : Int) : Option Nat :=
  let low := x.count power
  match x.covers low power, x.covers (low + 1) power with
  | true, false => some low
  | false, true => some (low + 1)
  | false, false => none
  | true, true =>
    match compareScaled (2 * low + 1) power (2 * x.m) x.q with
    | .gt => some low
    | .lt => some (low + 1)
    | .eq => some (if low % 2 = 0 then low else low + 1)

/-- The digits of the number, as few as name it, and the power of ten of the last one.
    Seventeen digits are always enough. -/
def shortest (x : Binary) : Nat × Int :=
  let powers := (List.range 17).map fun n : Nat => x.leading - n
  (powers.findSome? fun power => (x.neighbour? power).map (·, power)).getD (0, 0)

end Binary

namespace Shortest

/-- Numbers below ten to the 16th are written out, and a digit alone stays alone. -/
def style : Style := ⟨16, false⟩

/-- The numeral of a finite floating-point number. -/
def numeral (x : Float) : Decimal :=
  let (units, power) := if x == 0.0 then (0, 0) else (Binary.ofFloat x).shortest
  ⟨Binary.isNegative x, units, power⟩

/-- The written form of a floating-point number. -/
def render (x : Float) : String :=
  let d := numeral x
  let sign := if d.negative then "-" else ""
  if x.isNaN then "nan"
  else if x.isInf then sign ++ "inf"
  else if d.units = 0 then sign ++ "0.0"
  else sign ++ style.render d.units d.exponent

end Shortest

end RequestCatalog
