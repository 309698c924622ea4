import RequestCatalog.Number
import RequestCatalog.Text

/-! # Free-form values

  Authentication settings and header entries are free-form: the catalogue keeps
  whatever value it was given. Whole numbers of any size and floating-point
  numbers are different values, so `1` and `1.0` stay apart.

  The members of an object are listed in the order they were first written, and
  a name stands at most once in a value that was built with `Json.put`.
-/

namespace RequestCatalog

/-- A free-form value. -/
inductive Json where
  /-- No value. -/
  | null
  /-- A truth value. -/
  | bool (b : Bool)
  /-- A whole number of any size. -/
  | int (n : Int)
  /-- A floating-point number, infinities and NaN included. -/
  | real (x : Float)
  /-- A text. -/
  | text (t : Text)
  /-- A list of values. -/
  | list (items : List Json)
  /-- An object: named members. -/
  | object (members : List (Text × Json))
  deriving Inhabited

namespace Json

/-- An optional text as a value: nothing is `null`. -/
def ofText? : Option String → Json
  | none => .null
  | some s => .text s

/-! ### Members of objects -/

/-- Set the member `name`: a new value takes the old one's place, a new name goes last. -/
def put (name : Text) (value : Json) : List (Text × Json) → List (Text × Json)
  | [] => [(name, value)]
  | (other, old) :: rest =>
    if other = name then (name, value) :: rest else (other, old) :: put name value rest

/-- After `put`, the name that was set has the value it was set to. -/
theorem lookup_put_self (name : Text) (value : Json) (members : List (Text × Json)) :
    (put name value members).lookup name = some value := by
  induction members with
  | nil => simp [put]
  | cons head rest ih =>
    obtain ⟨other, old⟩ := head
    by_cases h : other = name
    · simp [put, h]
    · have hne : (name == other) = false := by simpa using Ne.symm h
      simp [put, h, List.lookup_cons, hne, ih]

/-- Setting a member leaves every other name as it was. -/
theorem lookup_put_ne {name other : Text} (h : other ≠ name) (value : Json)
    (members : List (Text × Json)) :
    (put name value members).lookup other = members.lookup other := by
  have hne : (other == name) = false := by simpa using h
  induction members with
  | nil => simp [put, List.lookup_cons, hne]
  | cons head rest ih =>
    obtain ⟨first, old⟩ := head
    by_cases hf : first = name
    · subst hf
      simp [put, List.lookup_cons, hne]
    · simp [put, hf, List.lookup_cons, ih]

/-! ### Simple facts about values -/

/-- Values that count as empty. -/
def isVacant : Json → Bool
  | .null => true
  | .bool b => !b
  | .int n => n == 0
  | .real x => x == 0.0
  | .text t => t.isEmpty
  | .list items => items.isEmpty
  | .object members => members.isEmpty

/-- A number as a value. -/
def ofNumber : Number → Json
  | .whole n => .int n
  | .real x => .real x

/-- The number that a value is worth, if it is worth one. A truth value counts as one or
    zero. -/
def number? : Json → Option Number
  | .bool b => some (.whole (if b then 1 else 0))
  | .int n => some (.whole n)
  | .real x => some (.real x)
  | _ => none

/-! ### Agreement -/

/-- NaN, which differs from every number, itself included. -/
def isNaN : Json → Bool
  | .real x => x.isNaN
  | _ => false

mutual

/-- Two values agree if they are worth the same: numbers and truth values whichever way they
    are kept, texts letter by letter, lists item by item, and objects name by name in any
    order. Whether one NaN agrees with another is for the asker to say. -/
def agrees (nanAgrees : Bool) : Json → Json → Bool
  | .list items, .list others => agreesItems nanAgrees items others
  | .object members, .object others =>
    members.length == others.length && agreesMembers nanAgrees others members
  | .null, .null => true
  | .text s, .text t => s == t
  | j, k =>
    match j.number?, k.number? with
    | some m, some n => m.agrees n || (nanAgrees && j.isNaN && k.isNaN)
    | _, _ => false

/-- Two lists agree item by item. -/
def agreesItems (nanAgrees : Bool) : List Json → List Json → Bool
  | [], [] => true
  | j :: rest, k :: others => j.agrees nanAgrees k && agreesItems nanAgrees rest others
  | _, _ => false

/-- Each member agrees with the one of its name among the others. -/
def agreesMembers (nanAgrees : Bool) (others : List (Text × Json)) :
    List (Text × Json) → Bool
  | [] => true
  | (name, j) :: rest =>
    (others.lookup name).any (fun k => j.agrees nanAgrees k) && agreesMembers nanAgrees others rest

end

/-! ### Height -/

mutual

/-- How many values stand inside each other: one for a value without parts, and one more than
    the highest part for a list or an object. -/
def height : Json → Nat
  | .list items => heightOfItems items + 1
  | .object members => heightOfMembers members + 1
  | _ => 1

/-- The height of the highest item. -/
def heightOfItems : List Json → Nat
  | [] => 0
  | j :: rest => max j.height (heightOfItems rest)

/-- The height of the highest member. -/
def heightOfMembers : List (Text × Json) → Nat
  | [] => 0
  | (_, j) :: rest => max j.height (heightOfMembers rest)

end

mutual

/-- How many lists and objects stand inside each other. -/
def nesting : Json → Nat
  | .list items => nestingOfItems items + 1
  | .object members => nestingOfMembers members + 1
  | _ => 0

/-- The nesting of the item that is nested most. -/
def nestingOfItems : List Json → Nat
  | [] => 0
  | j :: rest => max j.nesting (nestingOfItems rest)

/-- The nesting of the member that is nested most. -/
def nestingOfMembers : List (Text × Json) → Nat
  | [] => 0
  | (_, j) :: rest => max j.nesting (nestingOfMembers rest)

end

/-! ### Values that can be put in writing -/

/-- What keeps a value from being put in writing. -/
inductive Obstacle where
  /-- Too many lists and objects stand inside each other. -/
  | tooDeep
  /-- A whole number has too many digits. -/
  | tooLong
  deriving DecidableEq, Repr

/-- The most digits that a whole number in writing may have. -/
def greatestDigits : Nat := 4300

/-- A whole number with too many digits. -/
def isTooLong (n : Int) : Bool := Nat.pow 10 greatestDigits ≤ n.natAbs

mutual

/-- What first keeps a value from being put in writing where so many lists and objects may stand
    inside each other. -/
def obstacle? (room : Nat) : Json → Option Obstacle
  | .int n => if isTooLong n then some .tooLong else none
  | .list items => if room = 0 then some .tooDeep else obstacleOfItems? (room - 1) items
  | .object members => if room = 0 then some .tooDeep else obstacleOfMembers? (room - 1) members
  | _ => none

/-- What first keeps an item from being put in writing. -/
def obstacleOfItems? (room : Nat) : List Json → Option Obstacle
  | [] => none
  | j :: rest => j.obstacle? room <|> obstacleOfItems? room rest

/-- What first keeps a member from being put in writing. -/
def obstacleOfMembers? (room : Nat) : List (Text × Json) → Option Obstacle
  | [] => none
  | (_, j) :: rest => j.obstacle? room <|> obstacleOfMembers? room rest

end

/-! ### Values that can be shown -/

mutual

/-- Every text in the value is sound. -/
def isSound : Json → Bool
  | .text t => t.isSound
  | .list items => isSoundItems items
  | .object members => isSoundMembers members
  | _ => true

/-- Every item is sound. -/
def isSoundItems : List Json → Bool
  | [] => true
  | j :: rest => j.isSound && isSoundItems rest

/-- Every member is sound, its name included. -/
def isSoundMembers : List (Text × Json) → Bool
  | [] => true
  | (name, j) :: rest => name.isSound && j.isSound && isSoundMembers rest

end

mutual

/-- A number that is infinite or NaN cannot be shown: `null` takes its place, at any depth. -/
def shown : Json → Json
  | .real x => if x.isFinite then .real x else .null
  | .list items => .list (shownItems items)
  | .object members => .object (shownMembers members)
  | j => j

/-- The items of a list, each as it can be shown. -/
def shownItems : List Json → List Json
  | [] => []
  | j :: rest => j.shown :: shownItems rest

/-- The members of an object, each as it can be shown. -/
def shownMembers : List (Text × Json) → List (Text × Json)
  | [] => []
  | (name, j) :: rest => (name, j.shown) :: shownMembers rest

end

end Json

end RequestCatalog
