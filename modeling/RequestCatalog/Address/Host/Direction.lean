import RequestCatalog.Address.Host.Mark

/-! # Directions of writing

  Characters are written to the right or to the left, or they go along with the others. A
  label that has anything to do with writing to the left is written to the left throughout:
  it begins and ends in that direction, and its digits are of one sort.
-/

namespace RequestCatalog

namespace Host

/-- How a character is written. -/
inductive Direction where
  /-- To the right. -/
  | rightward
  /-- To the left. -/
  | leftward
  /-- A digit that goes along with either. -/
  | digit
  /-- A digit that goes along with writing to the left. -/
  | leftwardDigit
  /-- A mark, which goes along with its letter. -/
  | mark
  /-- Anything else that goes along with either. -/
  | neutral
  deriving DecidableEq, Repr

/-- The ranges of characters that are written to the left. -/
def leftwardRanges : List (Nat × Nat) :=
  [(0x5D0, 0x5F4), (0x620, 0x64A), (0x66E, 0x66F), (0x671, 0x6D5), (0x6E5, 0x6E6), (0x6EE, 0x6EF),
   (0x6FA, 0x710), (0x712, 0x72F), (0x74D, 0x7A5), (0x7B1, 0x7EA), (0x7F4, 0x7F5), (0x800, 0x815),
   (0x81A, 0x81A), (0x824, 0x824), (0x828, 0x828), (0x840, 0x858), (0x860, 0x88E), (0x8A0, 0x8C9),
   (0xFE73, 0xFE73), (0x10800, 0x10A00), (0x10A10, 0x10A35), (0x10A60, 0x10AE4), (0x10B00, 0x10D23),
   (0x10E80, 0x10EA9), (0x10EB0, 0x10F45), (0x10F70, 0x10F81), (0x10FB0, 0x10FF6),
   (0x1E800, 0x1E8C4), (0x1E922, 0x1E943), (0x1E94B, 0x1E959)]

/-- The ranges of digits that go along with either direction. -/
def freeDigitRanges : List (Nat × Nat) := [(0x30, 0x39), (0x6F0, 0x6F9)]

/-- The ranges of digits that go along with writing to the left. -/
def leftwardDigitRanges : List (Nat × Nat) := [(0x660, 0x669), (0x10D30, 0x10D39)]

/-- The ranges of characters that go along with either direction. -/
def neutralRanges : List (Nat × Nat) :=
  [(0x2D, 0x2D), (0xB7, 0xB7), (0x2B9, 0x2BA), (0x2C6, 0x2CF), (0x2EC, 0x2EC), (0x375, 0x375),
   (0x200C, 0x200D), (0x2E2F, 0x2E2F), (0x30FB, 0x30FB), (0xA67F, 0xA67F), (0xA717, 0xA71F),
   (0xA788, 0xA788)]

/-- Marks without room that are written to the right. -/
def rightwardMarks : List Nat := [0xCBF, 0xCC6, 0x11A07, 0x11A08, 0x11C3F]

/-- How a character is written. -/
def direction (c : Char) : Direction :=
  if isWithin leftwardRanges c then .leftward
  else if isWithin freeDigitRanges c then .digit
  else if isWithin leftwardDigitRanges c then .leftwardDigit
  else if isWithin neutralRanges c then .neutral
  else if isRoomless c && !rightwardMarks.contains c.toNat then .mark
  else .rightward

/-- The label keeps to one direction. -/
def keepsDirection (label : List Char) : Bool :=
  let directions := label.map direction
  let ending := directions.reverse.find? (· ≠ .mark)
  !(directions.contains .leftward || directions.contains .leftwardDigit) ||
    (directions.head? == some .leftward && !directions.contains .rightward &&
      !(directions.contains .digit && directions.contains .leftwardDigit) &&
      ending.any fun d => d ∈ [.leftward, .digit, .leftwardDigit])

example : keepsDirection "bücher1".toList = true := by decide +kernel
example : keepsDirection "אב1".toList = true := by decide +kernel
example : keepsDirection "aא".toList = false := by decide +kernel
example : keepsDirection "٣".toList = false := by decide +kernel

end Host

end RequestCatalog
