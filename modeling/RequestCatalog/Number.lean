import RequestCatalog.Decimal.Approximate
import RequestCatalog.Decimal.Rounded
import RequestCatalog.Decimal.Shortest

/-! # Numbers

  A number is a whole number of any size or a floating-point number. Two numbers agree if
  they are worth the same, whichever way they are kept: nothing is rounded to compare them.

  Columns keep whole numbers of 64 bits. A free-form column is handed a number in writing
  and reads the numeral; it keeps a floating-point number without a fraction as a whole
  number where it fits, and a whole number that does not fit as a floating-point number.
-/

namespace RequestCatalog

/-- A number. -/
inductive Number where
  /-- A whole number. -/
  | whole (n : Int)
  /-- A floating-point number. -/
  | real (x : Float)

/-- The whole number fits into 64 bits. -/
def fits64 (n : Int) : Bool := -9223372036854775808 ≤ n && n ≤ 9223372036854775807

namespace Number

/-- The numbers are worth the same. NaN agrees with nothing, itself included. -/
def agrees : Number → Number → Bool
  | .whole m, .whole n => m == n
  | .whole m, .real y => Binary.wholeValue? y == some m
  | .real x, .whole n => Binary.wholeValue? x == some n
  | .real x, .real y => x == y

/-- A floating-point number without a fraction as a whole number, where it fits. The least
    number of 64 bits is kept as it is. -/
def tidy (x : Float) : Number :=
  match Binary.wholeValue? x with
  | some n => if -9223372036854775808 < n ∧ n ≤ 9223372036854775807 then .whole n else .real x
  | none => .real x

/-- A free-form column reads such numbers: whole numbers of 64 bits, and floating-point numbers
    that it does not keep as whole numbers. -/
def IsRead : Number → Prop
  | .whole n => fits64 n = true
  | .real x => tidy x = .real x

theorem isRead_tidy (x : Float) : (tidy x).IsRead := by
  cases htidy : tidy x with
  | whole n =>
    unfold tidy at htidy
    split at htidy
    · next m _ =>
      split at htidy
      · next hfits =>
        obtain rfl := whole.inj htidy
        unfold IsRead fits64
        simp only [Bool.and_eq_true, decide_eq_true_eq]
        omega
      · cases htidy
    · cases htidy
  | real y =>
    have hsame : y = x := by
      unfold tidy at htidy
      split at htidy
      · split at htidy
        · cases htidy
        · exact (real.inj htidy).symm
      · exact (real.inj htidy).symm
    rw [hsame] at htidy ⊢
    exact htidy

/-- A number as a free-form column holds it. -/
structure Reading where
  /-- The number. -/
  number : Number
  /-- It is one that is read. -/
  isRead : number.IsRead

/-- A floating-point number that was read. -/
def Reading.ofFloat (x : Float) : Reading := ⟨tidy x, isRead_tidy x⟩

/-- The form in which a free-form column keeps a number. A number that is infinite or NaN has
    no numeral to read. -/
def kept? : Number → Option Reading
  | .whole n =>
    some (if hfits : fits64 n = true then ⟨.whole n, hfits⟩
      else .ofFloat (Decimal.approximate ⟨n < 0, n.natAbs, 0⟩))
  | .real x => if x.isFinite then some (.ofFloat (Shortest.numeral x).approximate) else none

/-! ### Numbers and texts -/

/-- The text that stands for a number in a column of texts. NaN has none. -/
def text? : Number → Option String
  | .whole n => some (toString n)
  | .real x => if x.isNaN then none else some (Rounded.render x)

/-- A character that may stand around the numeral in a text. -/
def isMargin (c : Char) : Bool :=
  c = ' ' || ('\t' ≤ c && c ≤ '\r')

/-- The number that a text writes, if it writes one. A numeral without point and exponent is
    a whole number where it fits into 64 bits. -/
def ofText? (s : String) : Option Number := do
  let cs := s.toList.dropWhile isMargin
  let (d, isWhole) ← Decimal.read? (cs.reverse.dropWhile isMargin).reverse
  return if isWhole && fits64 d.toInt then .whole d.toInt else .real d.approximate

end Number

end RequestCatalog
