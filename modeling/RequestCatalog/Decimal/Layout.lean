/-! # Laying out digits

  Digits and a power of ten are written with a point where the point stands near the
  digits, and with an exponent of at least two digits elsewhere. Styles differ in how far
  the point may stand to the right, and in whether one digit alone gets a point.
-/

namespace RequestCatalog

/-- A style. -/
structure Style where
  /-- From ten to this power on, a number is written with an exponent. -/
  exponentFrom : Int
  /-- A digit alone in front of an exponent is followed by a point and a zero. -/
  pointsSingleDigit : Bool
  deriving DecidableEq, Repr

namespace Style

/-- Digits without the zeros at their end, with the power of ten of the last one that stays. -/
def stripped (digits : List Char) (power : Int) : List Char × Int :=
  let zeros := (digits.reverse.takeWhile (· = '0')).length
  (digits.take (digits.length - zeros), power + zeros)

/-- An exponent with its mark and sign. -/
def exponent (power : Int) : List Char :=
  let digits := Nat.toDigits 10 power.natAbs
  ['e', if power < 0 then '-' else '+'] ++ List.replicate (2 - digits.length) '0' ++ digits

/-- Digits, the last one worth ten to the `power`, in this style. -/
def layout (style : Style) (digits : List Char) (power : Int) : List Char :=
  let leading := power + digits.length - 1
  if style.exponentFrom ≤ leading ∨ leading < -4 then
    let point :=
      if digits.length ≠ 1 then ['.'] else if style.pointsSingleDigit then ['.', '0'] else []
    digits.take 1 ++ point ++ digits.drop 1 ++ exponent leading
  else if 0 ≤ power then
    digits ++ List.replicate power.toNat '0' ++ ['.', '0']
  else if 0 ≤ leading then
    let whole := leading.toNat + 1
    digits.take whole ++ ['.'] ++ digits.drop whole
  else
    ['0', '.'] ++ List.replicate (-leading - 1).toNat '0' ++ digits

/-- A number of units, each worth ten to the `power`, without zeros at the end. -/
def render (style : Style) (units : Nat) (power : Int) : String :=
  let (digits, power) := stripped (Nat.toDigits 10 units) power
  String.ofList (style.layout digits power)

end Style

end RequestCatalog
