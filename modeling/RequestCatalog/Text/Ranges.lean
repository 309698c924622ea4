/-! # Ranges of characters

  A property of characters is given by the ranges of characters that have it, or by the
  value that each range has.
-/

namespace RequestCatalog

/-- A plain character is one of the first 128. -/
def isPlain (c : Char) : Bool := c.toNat < 128

/-- The character lies in one of these ranges. The ends of a range belong to it. -/
def isWithin (ranges : List (Nat × Nat)) (c : Char) : Bool :=
  ranges.any fun (first, last) => first ≤ c.toNat && c.toNat ≤ last

/-- The value of the first range in which the character lies. -/
def valueWithin? {α : Type} (ranges : List (Nat × Nat × α)) (c : Char) : Option α :=
  (ranges.find? fun (first, last, _) => first ≤ c.toNat && c.toNat ≤ last).map fun
    (_, _, value) => value

/-- A character lies in two lists of ranges put together if it lies in one of them. -/
theorem isWithin_append (ranges others : List (Nat × Nat)) (c : Char) :
    isWithin (ranges ++ others) c = (isWithin ranges c || isWithin others c) := by
  simp [isWithin]

end RequestCatalog
