import RequestCatalog.Text
import RequestCatalog.Text.Utf8

/-! # Encodings of values

  A text that writes a value begins with a character of one byte. So the zeros among its
  first bytes tell in which encoding it comes: characters of one to four bytes, units of
  two bytes or units of four bytes, and with units which byte of a unit comes first.

  Bytes that cannot be cut into units, or a unit beyond all characters, make the text
  unreadable. A half of a pair that stands alone is read as what it is.
-/

namespace RequestCatalog

/-- The encodings. -/
inductive Encoding where
  /-- Characters of one to four bytes. -/
  | utf8
  /-- Units of two bytes; two of them may stand for one character. -/
  | utf16 (bigEndian : Bool)
  /-- Units of four bytes, one for each character. -/
  | utf32 (bigEndian : Bool)
  deriving DecidableEq, Repr

namespace Encoding

/-- The encoding that the first bytes tell. -/
def detect : List Nat → Encoding
  | 0 :: b :: _ :: _ :: _ => if b = 0 then .utf32 true else .utf16 true
  | _ :: 0 :: c :: d :: _ => if c = 0 ∧ d = 0 then .utf32 false else .utf16 false
  | [0, _] => .utf16 true
  | [_, 0] => .utf16 false
  | _ => .utf8

/-! ### Units -/

/-- The first half of a pair that stands for one character. -/
def isLeadingHalf (unit : Nat) : Bool := 0xD800 ≤ unit && unit < 0xDC00

/-- The second half of such a pair. -/
def isTrailingHalf (unit : Nat) : Bool := 0xDC00 ≤ unit && unit < 0xE000

/-- The letter of a unit: a half that stands alone, or a character. -/
def letterOfUnit (unit : Nat) : Letter :=
  if h : 0xD800 ≤ unit ∧ unit < 0xE000 then .half ⟨unit - 0xD800, by omega⟩
  else .char (Char.ofNat unit)

/-- The character that two halves stand for. -/
def charOfHalves (leading trailing : Nat) : Char :=
  Char.ofNat (0x10000 + (leading - 0xD800) * 0x400 + (trailing - 0xDC00))

/-- The units of two bytes that write a character: one, or two halves. -/
def unitsOfChar (c : Char) : List Nat :=
  let n := c.toNat
  if n < 0x10000 then [n] else [0xD800 + (n - 0x10000) / 0x400, 0xDC00 + (n - 0x10000) % 0x400]

example : unitsOfChar '😀' = [0xD83D, 0xDE00] := by decide
example : charOfHalves 0xD83D 0xDE00 = '😀' := by decide

/-- The units of two bytes that write a letter. -/
def unitsOfLetter : Letter → List Nat
  | .char c => unitsOfChar c
  | .half n => [0xD800 + n]

/-- The letters that units of two bytes spell. -/
def lettersOfUnits : List Nat → List Letter
  | [] => []
  | [unit] => [letterOfUnit unit]
  | unit :: next :: rest =>
    if isLeadingHalf unit && isTrailingHalf next then
      .char (charOfHalves unit next) :: lettersOfUnits rest
    else letterOfUnit unit :: lettersOfUnits (next :: rest)

/-! ### Bytes -/

/-- A number from its bytes. -/
def ofBytes (bigEndian : Bool) (bytes : List Nat) : Nat :=
  (if bigEndian then bytes else bytes.reverse).foldl (fun n b => n * 256 + b) 0

/-- The units of two bytes each, unless a byte is left over. -/
def units16? (bigEndian : Bool) : List Nat → Option (List Nat)
  | [] => some []
  | a :: b :: rest => (ofBytes bigEndian [a, b] :: ·) <$> units16? bigEndian rest
  | [_] => none

/-- The units of four bytes each, unless some bytes are left over. -/
def units32? (bigEndian : Bool) : List Nat → Option (List Nat)
  | [] => some []
  | a :: b :: c :: d :: rest => (ofBytes bigEndian [a, b, c, d] :: ·) <$> units32? bigEndian rest
  | _ => none

/-- The letters that bytes spell in an encoding, if they can be read. -/
def decode? : Encoding → List Nat → Option (List Letter)
  | .utf8, bytes => some ((Utf8.decode bytes).map .char)
  | .utf16 bigEndian, bytes => lettersOfUnits <$> units16? bigEndian bytes
  | .utf32 bigEndian, bytes => do
    let units ← units32? bigEndian bytes
    if units.all (· < 0x110000) then return units.map letterOfUnit else none

end Encoding

end RequestCatalog
