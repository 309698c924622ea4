/-! # Cutting texts

  A text is cut at every place where a separator stands, or at the first one only.
-/

namespace RequestCatalog

/-- The parts between separators. There is always one part more than there are separators. -/
def cutAt (separator : Char) : List Char → List (List Char)
  | [] => [[]]
  | c :: rest =>
    let parts := cutAt separator rest
    if c = separator then [] :: parts
    else
      match parts with
      | part :: others => (c :: part) :: others
      | [] => [[c]]

theorem cutAt_ne_nil (separator : Char) (cs : List Char) : cutAt separator cs ≠ [] := by
  cases cs with
  | nil => simp [cutAt]
  | cons c rest =>
    simp only [cutAt]
    split
    · simp
    · split <;> simp

/-- A text without the separator is one part. -/
theorem cutAt_of_not_mem {separator : Char} {cs : List Char} (h : separator ∉ cs) :
    cutAt separator cs = [cs] := by
  induction cs with
  | nil => rfl
  | cons c rest ih =>
    simp only [List.mem_cons, not_or] at h
    simp [cutAt, Ne.symm h.1, ih h.2]

/-- What stands before the first separator, and what stands behind it if there is one. -/
def cutAtFirst (separator : Char) (cs : List Char) : List Char × Option (List Char) :=
  match cs.dropWhile (· != separator) with
  | [] => (cs, none)
  | _ :: behind => (cs.takeWhile (· != separator), some behind)

end RequestCatalog
