/-! # Texts that callers write

  A text is a row of characters. Some characters may be written by two halves, and nothing
  keeps a caller from writing one half alone. A text in which that happens is garbled. A
  free-form value takes it as it is; a column of texts has no place for it, and neither has
  a reply.
-/

namespace RequestCatalog

/-- A character, or a half of one that stands alone. -/
inductive Letter where
  /-- A character. -/
  | char (c : Char)
  /-- The half with this number. -/
  | half (n : Fin 0x800)
  deriving DecidableEq

namespace Letter

/-- The letter is a half that stands alone. -/
def isHalf : Letter → Bool
  | .char _ => false
  | .half _ => true

/-- The character, unless the letter is a half. -/
def char? : Letter → Option Char
  | .char c => some c
  | .half _ => none

end Letter

/-- A text. -/
inductive Text where
  /-- Characters throughout. -/
  | sound (s : String)
  /-- Letters of which one at least is a half. -/
  | garbled (letters : List Letter) (h : letters.any Letter.isHalf = true)
  deriving DecidableEq

instance : Coe String Text := ⟨.sound⟩

instance : Inhabited Text := ⟨.sound ""⟩

namespace Text

/-- The text of these letters. -/
def ofLetters (letters : List Letter) : Text :=
  if h : letters.any Letter.isHalf = true then .garbled letters h
  else .sound (String.ofList (letters.filterMap Letter.char?))

/-- The letters of a text. -/
def letters : Text → List Letter
  | .sound s => s.toList.map .char
  | .garbled letters _ => letters

/-- The text is one of characters. -/
def isSound : Text → Bool
  | .sound _ => true
  | .garbled .. => false

/-- There is nothing in the text. -/
def isEmpty : Text → Bool
  | .sound s => s.isEmpty
  | .garbled .. => false

/-- The characters of a sound text. Of a garbled one nothing is taken. -/
def plain : Text → String
  | .sound s => s
  | .garbled .. => ""

/-- The text with a replacement character for each half. -/
def repaired (t : Text) : String :=
  String.ofList (t.letters.map fun l => l.char?.getD '\uFFFD')

@[simp] theorem isSound_sound (s : String) : (sound s).isSound = true := rfl

@[simp] theorem plain_sound (s : String) : (sound s).plain = s := rfl

@[simp] theorem sound_beq_sound (s t : String) : (sound s == sound t) = (s == t) := by
  rw [Bool.eq_iff_iff, beq_iff_eq, beq_iff_eq, sound.injEq]

/-- Where the halves of a garbled text begin, and how many stand there. -/
def firstHalves (t : Text) : Nat × Nat :=
  let before := t.letters.takeWhile (!·.isHalf)
  (before.length, ((t.letters.drop before.length).takeWhile Letter.isHalf).length)

end Text

end RequestCatalog
