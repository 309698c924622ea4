/-! # Characters from bytes

  Bytes are read as characters of one to four bytes. Bytes that spell no character
  do not stop the reading. The longest run of them that could have begun a character
  is replaced by one replacement character, and the reading goes on behind it.
-/

namespace RequestCatalog

namespace Utf8

/-- What the first byte of a longer character says about the bytes that follow. -/
structure Lead where
  /-- How many bytes follow. -/
  following : Nat
  /-- The least second byte. -/
  least : Nat
  /-- The greatest second byte. -/
  greatest : Nat
  /-- The bits that the first byte gives. -/
  bits : Nat

/-- What a first byte says. The bounds on the second byte rule out long spellings of
    short characters, halves of pairs, and numbers beyond the last character. -/
def lead? (b : Nat) : Option Lead :=
  if b < 0xC2 then none
  else if b < 0xE0 then some ⟨1, 0x80, 0xBF, b - 0xC0⟩
  else if b = 0xE0 then some ⟨2, 0xA0, 0xBF, 0⟩
  else if b = 0xED then some ⟨2, 0x80, 0x9F, 0xD⟩
  else if b < 0xF0 then some ⟨2, 0x80, 0xBF, b - 0xE0⟩
  else if b = 0xF0 then some ⟨3, 0x90, 0xBF, 0⟩
  else if b < 0xF4 then some ⟨3, 0x80, 0xBF, b - 0xF0⟩
  else if b = 0xF4 then some ⟨3, 0x80, 0x8F, 4⟩
  else none

/-- The bytes behind a first byte that can belong to its character. -/
def followers (lead : Lead) (bytes : List Nat) : List Nat :=
  match bytes with
  | second :: rest =>
    if lead.least ≤ second ∧ second ≤ lead.greatest then
      second :: (rest.take (lead.following - 1)).takeWhile fun b => 0x80 ≤ b && b ≤ 0xBF
    else []
  | [] => []

/-- The characters that bytes spell. -/
def decode : List Nat → List Char
  | [] => []
  | b :: rest =>
    if b < 0x80 then Char.ofNat b :: decode rest
    else
      match lead? b with
      | none => '\uFFFD' :: decode rest
      | some lead =>
        let bytes := followers lead rest
        let c :=
          if bytes.length = lead.following then
            Char.ofNat (bytes.foldl (fun n byte => n * 64 + (byte - 0x80)) lead.bits)
          else '\uFFFD'
        c :: decode (rest.drop bytes.length)
termination_by bytes => bytes.length

/-- The bytes that spell a character. -/
def encodeChar (c : Char) : List Nat := (String.utf8EncodeChar c).map UInt8.toNat

end Utf8

end RequestCatalog
