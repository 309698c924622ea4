import RequestCatalog.Text.Ranges

/-! # Labels in plain characters

  A label with characters that are not plain has a form in plain ones. The plain characters
  come first, as they are, with a hyphen behind them if there are any. Behind that, numbers
  tell which characters are to be put in, and where.

  Putting in goes through the characters in their order, and through the places of the label
  for each of them. A number counts how many such choices are passed over before the next
  one is taken. Its digits are written in a base that shrinks from digit to digit, so that
  its end can be told, and that adapts to the numbers written before.
-/

namespace RequestCatalog

namespace Punycode

/-! ### Digits -/

/-- The character of a digit: letters for the first twenty-six, then figures. -/
def digitChar (d : Nat) : Char := Char.ofNat (if d < 26 then 97 + d else 22 + d)

/-- The digit that a character stands for. -/
def digit? (c : Char) : Option Nat :=
  if 'a' ≤ c ∧ c ≤ 'z' then some (c.toNat - 97)
  else if '0' ≤ c ∧ c ≤ '9' then some (c.toNat - 22)
  else none

/-- A digit is read as it was written. -/
theorem digit?_digitChar : ∀ d < 36, digit? (digitChar d) = some d := by decide

/-- The least digit that does not end a number, for the digit of this position. -/
def threshold (bias position : Nat) : Nat := max 1 (min 26 (36 * (position + 1) - bias))

theorem one_le_threshold (bias position : Nat) : 1 ≤ threshold bias position :=
  Nat.le_max_left ..

/-- Divide by thirty-five until at most 455 is left, and add thirty-six for each time. -/
def scaledDown (n base : Nat) : Nat × Nat :=
  if 455 < n then scaledDown (n / 35) (base + 36) else (n, base)
termination_by n
decreasing_by exact Nat.div_lt_self (by omega) (by omega)

/-- How the base adapts to a number, once so many characters are in the label. The first
    number of a label is likely to be far greater than the others. -/
def adapted (number count : Nat) (first : Bool) : Nat :=
  let n := if first then number / 700 else number / 2
  let (n, base) := scaledDown (n + n / count) 0
  base + 36 * n / (n + 38)

/-- The digits of a number, from a position on. -/
def digitsFrom (bias position number : Nat) : List Char :=
  let t := threshold bias position
  if number < t then [digitChar number]
  else digitChar (t + (number - t) % (36 - t)) ::
    digitsFrom bias (position + 1) ((number - t) / (36 - t))
termination_by number
decreasing_by
  have := one_le_threshold bias position
  have := Nat.div_le_self (number - threshold bias position) (36 - threshold bias position)
  omega

/-! ### Writing -/

/-- Put a character with its place in front of all that are no less. -/
def inOrder (c : Char) (place : Nat) : List (Char × Nat) → List (Char × Nat)
  | [] => [(c, place)]
  | (d, other) :: rest =>
    if c ≤ d then (c, place) :: (d, other) :: rest else (d, other) :: inOrder c place rest

/-- The characters that are not plain, in their order. The place of each is the number of
    characters in front of it that are no greater. -/
def putIn (before : List Char) : List Char → List (Char × Nat)
  | [] => []
  | c :: rest =>
    let others := putIn (c :: before) rest
    if isPlain c then others else inOrder c (before.countP (· ≤ c)) others

/-- The numbers that put characters in. The character and the place of the next choice are
    known, and so is how many characters the label has by now. -/
def numbers (char place count bias : Nat) (first : Bool) : List (Char × Nat) → List Char
  | [] => []
  | (c, target) :: rest =>
    let number := (c.toNat - char) * (count + 1) + target - place
    digitsFrom bias 0 number ++
      numbers c.toNat (target + 1) (count + 1) (adapted number (count + 1) first) false rest

/-- A label in plain characters. -/
def encode (label : List Char) : List Char :=
  let plain := label.filter isPlain
  (if plain.isEmpty then [] else plain ++ ['-']) ++
    numbers 128 0 plain.length 72 true (putIn [] label)

/-! ### Reading -/

/-- A label that is being read. -/
structure Reading where
  /-- The label so far. -/
  label : List Char
  /-- The character of the next choice. -/
  char : Nat := 128
  /-- The place of the next choice. -/
  place : Nat := 0
  /-- The bias of the base. -/
  bias : Nat := 72
  /-- No number was read so far. -/
  first : Bool := true
  /-- The position of the next digit. -/
  position : Nat := 0
  /-- What a digit of that position is worth. -/
  weight : Nat := 1
  /-- The number that is being read, so far. -/
  number : Nat := 0

namespace Reading

/-- Take a choice: so many are passed over. -/
def choose (r : Reading) (number : Nat) : Option Reading :=
  let count := r.label.length + 1
  let char := r.char + (r.place + number) / count
  let place := (r.place + number) % count
  if char.isValidChar then
    some {
      label := r.label.take place ++ Char.ofNat char :: r.label.drop place
      char, place := place + 1
      bias := adapted number count r.first
      first := false }
  else none

/-- Read a digit. -/
def take (r : Reading) (c : Char) : Option Reading := do
  let d ← digit? c
  let t := threshold r.bias r.position
  let number := r.number + d * r.weight
  if d < t then r.choose number
  else some { r with position := r.position + 1, weight := r.weight * (36 - t), number }

end Reading

/-- The label that stands in plain characters, if they can be read. -/
def decode? (cs : List Char) : Option (List Char) := do
  let digits := (cs.reverse.takeWhile (· != '-')).reverse
  let plain := cs.take (cs.length - digits.length - 1)
  let r ← digits.foldlM Reading.take { label := plain }
  if r.position = 0 then some r.label else none

example : encode "bücher".toList = "bcher-kva".toList := by decide +kernel
example : encode "日本語".toList = "wgv71a119e".toList := by decide +kernel
example : decode? "bcher-kva".toList = some "bücher".toList := by decide +kernel
example : decode? "bcher-kv".toList = none := by decide +kernel

end Punycode

end RequestCatalog
