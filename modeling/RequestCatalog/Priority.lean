import RequestCatalog.Notice

/-! # Sort priorities

  Siblings stand in ascending order of a floating-point priority. To put a record
  right after another one, no sibling is renumbered: the record gets a priority
  from the gap that follows its anchor, the middle between the anchor and the next
  sibling, or a fixed step past the last one.

  NaN is neither smaller nor greater than any priority. Ordering never fails on it
  and is stable, so records that compare equal keep the order they came in.
-/

namespace RequestCatalog

namespace Priority

/-- A whole number as a priority. One that is larger than every finite priority is none. -/
def ofInt (n : Int) : Except Fault Float :=
  let x := Float.ofInt n
  if x.isFinite then .ok x else .error .priorityTooLarge

/-- Compare two priorities. NaN counts as equal to everything. -/
def compare (a b : Float) : Ordering :=
  if a < b then .lt else if b < a then .gt else .eq

/-! ### Ordering -/

/-- Put a record in front of the first one whose priority is not smaller. -/
def insert {α : Type} (priority : α → Float) (x : α) : List α → List α
  | [] => [x]
  | y :: rest =>
    match compare (priority y) (priority x) with
    | .lt => y :: insert priority x rest
    | _ => x :: y :: rest

/-- The records in ascending order of their priorities. A record came before those it is
    inserted into, so it goes in front of its equals: the order is stable.

    That settles the order where no priority is NaN, and where all are. NaN compares as equal to
    everything, so among a mixture of NaN and numbers there is no order to speak of: the result is
    some permutation of the records, and another one than a different way of sorting gives. Of
    2.0, 1.0, NaN and 1.0, say, nobody may count on the place of the second 1.0. -/
def sort {α : Type} (priority : α → Float) : List α → List α
  | [] => []
  | x :: rest => insert priority x (sort priority rest)

end Priority

/-! ### Placing a record after another -/

/-- A record as far as its place among its siblings matters. -/
structure Placed where
  /-- Its identifier; a record that was never stored may have none. -/
  id : Option String
  /-- Its priority. -/
  priority : Float

namespace Priority

/-- The step past the last sibling. -/
def gap : Float := 1000.0

/-- The step past an anchor that is not among its siblings. -/
def strayOffset : Float := 0.001

/-- The priority that puts a record right after the anchor, and what is to be reported.
    The siblings from the anchor on decide: none at all, the anchor alone, or the
    anchor and the sibling whose gap is split. -/
def after (anchor : Placed) (siblings : List Placed) : Float × List Notice :=
  match (sort Placed.priority siblings).dropWhile (·.id != anchor.id) with
  | [] => (anchor.priority + strayOffset, [.strayAnchor anchor.id strayOffset])
  | [_] => (anchor.priority + gap, [])
  | _ :: next :: _ =>
    let middle := (anchor.priority + next.priority) / 2.0
    if anchor.priority < middle ∧ middle < next.priority then (middle, [])
    else (middle, [.noFreePriority anchor.priority next.priority anchor.id])

/-! ### Repeated insertion -/

/-- One insertion of a chain: the priority found, what was reported, and the
    identifiers in order once the new record stands among them. -/
structure Insertion where
  /-- The priority of the new record. -/
  priority : Float
  /-- What was reported. -/
  notices : List Notice
  /-- The identifiers of all records, in order. -/
  order : List (Option String)

/-- Insert one record after each anchor in turn. An anchor is a position in the growing
    list, which keeps the order of arrival; the `n`-th new record is called `c` and `n`. -/
def insertions (n : Nat) (records : List Placed) : List Nat → List Insertion
  | [] => []
  | position :: rest =>
    match records[position]? with
    | none => insertions (n + 1) records rest
    | some anchor =>
      let (priority, notices) := after anchor records
      let grown := records ++ [⟨some ("c" ++ toString n), priority⟩]
      ⟨priority, notices, (sort Placed.priority grown).map Placed.id⟩ ::
        insertions (n + 1) grown rest

end Priority

end RequestCatalog
