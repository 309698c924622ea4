import RequestCatalog.Store

/-! # Deleting with everything that depends

  A record depends on the records it refers to: when one of them goes, it goes too.

  * `Cascade.sweep` is how the tables do it. A deletion is worked off task by task, the last
    task that was set first. Whenever a record goes, each kind of record that may refer to it
    is followed in turn, and each record found in this way is deleted with all that depends
    on it before the next one is looked at. So deletions stand inside each other, and the
    tables open a limited number of them only. Beyond it the whole deletion is refused, and
    nothing goes.
  * `Cascade.closure` finds the same records in rounds, without an order and without a limit.
    Each round takes the records that refer to one already taken, and the search ends when
    a round takes nothing.

  Both end because records are used up: those not yet deleted, and those not yet taken. So
  cycles of references do no harm.
-/

namespace RequestCatalog

namespace Cascade

/-! ### Task by task -/

/-- How many deletions the tables open inside each other. -/
def greatestLevel : Nat := 1000

/-- The kinds of record that may refer to a kind of record, in the order in which they are
    followed. Results are referred to by nothing. -/
def followers : Kind → List Kind
  | .workspace => [.exchange .grpc, .exchange .http, .request .grpc, .request .http, .folder]
  | .folder => [.request .grpc, .request .http, .folder]
  | .request p => [.exchange p]
  | .exchange _ => []

/-- Something that is still to be done, inside so many open deletions. -/
inductive Task where
  /-- Delete a record, unless it went before. -/
  | delete (level : Nat) (key : Key)
  /-- Find the records of a kind that refer to a deleted record. -/
  | follow (level : Nat) (key : Key) (k : Kind)

/-- What a deleted record leaves to be done. -/
def Task.behind (level : Nat) (key : Key) : List Task :=
  (followers key.kind).map (.follow level key)

/-- The task is about records yet to be found. -/
def Task.follows : Task → Bool
  | .delete .. => false
  | .follow .. => true

/-- The records of a kind that refer to a record. -/
def referring (pool : List (Key × List Key)) (key : Key) (k : Kind) : List Key :=
  (pool.filter fun entry => entry.1.kind == k && entry.2.contains key).map Prod.fst

/-- The pool without a record. -/
def without (pool : List (Key × List Key)) (key : Key) : List (Key × List Key) :=
  pool.filter fun entry => entry.1 != key

/-- The record is one of the pool. -/
def has (pool : List (Key × List Key)) (key : Key) : Bool :=
  pool.any fun entry => entry.1 == key

/-- A pool without one of its records is smaller. -/
theorem length_without_lt {pool : List (Key × List Key)} {key : Key} (h : has pool key = true) :
    (without pool key).length < pool.length := by
  obtain ⟨entry, hmem, hkey⟩ := List.any_eq_true.mp h
  exact List.length_filter_lt_length_iff_exists.mpr ⟨entry, hmem, by simpa using hkey⟩

/-- The work that tasks can still make on so many records. To follow a record takes as much as
    there are records that may be found, and each deletion leaves five kinds of record to be
    followed at most. -/
def effort (size : Nat) (tasks : List Task) : Nat :=
  5 * (size * size) + size * tasks.countP Task.follows + tasks.length

theorem effort_behind_lt {size left level : Nat} {key : Key} {rest : List Task}
    (h : left < size) :
    effort left (Task.behind level key ++ rest) < effort size (.delete level key :: rest) := by
  have hfew : (followers key.kind).length ≤ 5 := by
    generalize key.kind = k
    cases k <;> simp [followers]
  have hcount : (Task.behind level key).countP Task.follows = (followers key.kind).length := by
    rw [Task.behind, List.countP_map, List.countP_eq_length.mpr (by simp [Task.follows])]
  have hsquare : (left + 1) * (left + 1) ≤ size * size := Nat.mul_le_mul h h
  have hrest := Nat.mul_le_mul_right (rest.countP Task.follows) (Nat.le_of_lt h)
  have hmore := Nat.mul_le_mul_left left hfew
  have hlength : (Task.behind level key).length = (followers key.kind).length := List.length_map _
  simp only [effort, List.countP_append, hcount, List.length_append, hlength, List.length_cons,
    List.countP_cons_of_neg (p := Task.follows) (a := .delete level key) (by simp [Task.follows]),
    Nat.mul_add, Nat.add_mul] at hsquare ⊢
  omega

theorem effort_delete_lt {size level : Nat} {key : Key} {rest : List Task} :
    effort size rest < effort size (.delete level key :: rest) := by
  rw [effort, effort, List.countP_cons_of_neg (by simp [Task.follows]), List.length_cons]
  omega

theorem effort_found_lt {size level next : Nat} {key : Key} {k : Kind} {found : List Key}
    {rest : List Task} (h : found.length ≤ size) :
    effort size (found.map (.delete next) ++ rest) < effort size (.follow level key k :: rest) := by
  have hnone : (found.map (Task.delete next)).countP Task.follows = 0 := by
    simp [List.countP_eq_zero, Task.follows]
  rw [effort, effort, List.countP_append, hnone, List.countP_cons_of_pos (by rfl),
    List.length_append, List.length_map, List.length_cons, Nat.zero_add, Nat.mul_add_one]
  omega

/-- The records that go when the tasks are worked off, in the order in which they go, unless
    too many deletions stand inside each other. -/
def sweep (pool : List (Key × List Key)) : List Task → Option (List Key)
  | [] => some []
  | .delete level key :: rest =>
    if _h : has pool key = true then
      (key :: ·) <$> sweep (without pool key) (Task.behind level key ++ rest)
    else sweep pool rest
  | .follow level key k :: rest =>
    if level < greatestLevel then
      sweep pool ((referring pool key k).map (.delete (level + 1)) ++ rest)
    else none
termination_by tasks => effort pool.length tasks
decreasing_by
  · exact effort_behind_lt (length_without_lt _h)
  · exact effort_delete_lt
  · exact effort_found_lt (by simpa [referring] using List.length_filter_le ..)

/-! ### Round by round -/

/-- The record refers to a taken one. -/
def touches (taken : List Key) (entry : Key × List Key) : Bool :=
  entry.2.any (taken.contains ·)

/-- The records of the pool that a round takes. -/
def round (taken : List Key) (pool : List (Key × List Key)) : List Key :=
  (pool.filter (touches taken)).map Prod.fst

/-- The records of the pool that a round leaves. -/
def untaken (taken : List Key) (pool : List (Key × List Key)) : List (Key × List Key) :=
  pool.filter fun entry => !touches taken entry

/-- A round that takes something leaves less. -/
theorem length_untaken_lt {taken : List Key} {pool : List (Key × List Key)}
    (h : pool.any (touches taken)) : (untaken taken pool).length < pool.length := by
  obtain ⟨entry, hmem, htouch⟩ := List.any_eq_true.mp h
  exact List.length_filter_lt_length_iff_exists.mpr ⟨entry, hmem, by simp [htouch]⟩

/-- Taken records together with all records of the pool that depend on them. -/
def closure (taken : List Key) (pool : List (Key × List Key)) : List Key :=
  if _h : pool.any (touches taken) then
    closure (taken ++ round taken pool) (untaken taken pool)
  else taken
termination_by pool.length
decreasing_by exact length_untaken_lt _h

end Cascade

namespace Store

/-- Everything that goes when the record goes, the record included. -/
def dependents (s : Store) (key : Key) : List Key :=
  Cascade.closure [key] s.entries

/-- The store without the record and without everything that depends on it. -/
def delete (s : Store) (key : Key) : Store :=
  let gone := s.dependents key
  s.keep fun other => !gone.contains other

/-- What goes with a stored record when the tables delete it, unless too many deletions stand
    inside each other. -/
def sweep (s : Store) (key : Key) : Option (List Key) :=
  (key :: ·) <$> Cascade.sweep (Cascade.without s.entries key) (Cascade.Task.behind 0 key)

/-- The store that is left when the tables delete a stored record, unless they refuse to. -/
def erase (s : Store) (key : Key) : Except Violation Store :=
  match s.sweep key with
  | some gone => .ok (s.keep fun other => !gone.contains other)
  | none => .error .tooManyLevels

end Store

end RequestCatalog
