import RequestCatalog.Json.Wording
import RequestCatalog.Json.Written

/-! # Values read as mappings

  Authentication settings and entries are meant to be mappings from names to values. A
  free-form column may hold anything else, and a good deal of it can be read as a mapping
  all the same: any value with parts, each of which has two parts of its own, a name and
  a value. The parts of a list are its items, those of a text its characters, and those
  of an object its names.

  Names need not be texts. Two names are the same if they are worth the same, so a truth
  value may be the name that a number is. Of two values under one name the later one
  counts, in the place of the earlier one. Lists and objects are no names.
-/

namespace RequestCatalog

namespace Json

/-- The names and values of a mapping, in the order in which the names first came. -/
abbrev Mapping := List (Json × Json)

/-- Why a value cannot be read as a mapping or as a list of mappings. -/
inductive Misfit where
  /-- A value of this type has no parts. -/
  | noParts (type : String)
  /-- The part at this position has no parts. -/
  | noPair (position : Nat)
  /-- The part at this position has so many parts, and not two. -/
  | notTwo (position length : Nat)
  /-- A value of this type is no name. -/
  | noName (type : String)
  deriving DecidableEq, Repr

/-- The wording of a misfit. -/
def Misfit.message : Misfit → String
  | .noParts type => "'" ++ type ++ "' object is not iterable"
  | .noPair position =>
    "cannot convert dictionary update sequence element #" ++ toString position ++ " to a sequence"
  | .notTwo position length =>
    "dictionary update sequence element #" ++ toString position ++ " has length " ++
      toString length ++ "; 2 is required"
  | .noName type => "unhashable type: '" ++ type ++ "'"

/-! ### Names -/

/-- The number that a value is worth as a name. -/
def nameNumber? : Json → Option Number
  | .bool b => some (.whole (if b then 1 else 0))
  | .int n => some (.whole n)
  | .real x => some (.real x)
  | _ => none

/-- Two values are the same name. -/
def sameName : Json → Json → Bool
  | .null, .null => true
  | .text s, .text t => s == t
  | a, b =>
    match nameNumber? a, nameNumber? b with
    | some m, some n => m.agrees n
    | _, _ => false

/-- The value can be a name. -/
def isName : Json → Bool
  | .list _ | .object _ => false
  | _ => true

/-- Set the value under a name: a new value takes the old one's place, a new name goes last. -/
def Mapping.put (name value : Json) : Mapping → Mapping
  | [] => [(name, value)]
  | (other, old) :: rest =>
    if sameName other name then (other, value) :: rest
    else (other, old) :: Mapping.put name value rest

/-! ### Reading -/

/-- The parts of a value, if it is one that has parts. -/
def parts? : Json → Option (List Json)
  | .list items => some items
  | .text t => some (t.letters.map fun l => .text (.ofLetters [l]))
  | .object members => some (members.map fun (name, _) => .text name)
  | _ => none

/-- A part read as a name and a value. -/
def pair (position : Nat) (part : Json) : Except Misfit (Json × Json) :=
  match part.parts? with
  | none => .error (.noPair position)
  | some [name, value] =>
    if name.isName then .ok (name, value) else .error (.noName name.typeName)
  | some parts => .error (.notTwo position parts.length)

/-- Several parts, the first at this position, laid over a mapping one after the other. -/
def pairsFrom (position : Nat) (base : Mapping) : List Json → Except Misfit Mapping
  | [] => .ok base
  | part :: rest => do
    let (name, value) ← pair position part
    pairsFrom (position + 1) (base.put name value) rest

/-- The value as a mapping. An object is one as it stands. -/
def mapping : Json → Except Misfit Mapping
  | .object members => .ok (members.map fun (name, j) => (.text name, j))
  | j =>
    match j.parts? with
    | some parts => pairsFrom 0 [] parts
    | none => .error (.noParts j.typeName)

/-- The value as a mapping, where an empty value of any type means the empty one. -/
def mappingOrVacant (j : Json) : Except Misfit Mapping :=
  if j.isVacant then .ok [] else j.mapping

theorem mappingOrVacant_object (members : List (Text × Json)) :
    (Json.object members).mappingOrVacant = .ok (members.map fun (name, j) => (.text name, j)) := by
  cases members <;> rfl

/-! ### Writing -/

/-- A name as the name of a member. -/
def nameText : Json → Text
  | .text t => t
  | j => String.ofList j.written

/-- The mapping as an object. -/
def Mapping.toObject (m : Mapping) : Json :=
  .object (m.map fun (name, j) => (name.nameText, j))

/-- An object is the same object when it is read as a mapping. -/
theorem toObject_members (members : List (Text × Json)) :
    Mapping.toObject (members.map fun (name, j) => (.text name, j)) = .object members := by
  simp [Mapping.toObject, nameText, Function.comp_def]

/-- The members of the object that a mapping is, if all its names are texts. -/
def Mapping.members? (m : Mapping) : Option (List (Text × Json)) :=
  m.mapM fun (name, j) =>
    match name with
    | .text t => some (t, j)
    | _ => none

/-- One entry of a list of mappings, as an object. -/
def entry (j : Json) : Except Misfit Json :=
  Mapping.toObject <$> j.mapping

theorem entry_object (members : List (Text × Json)) :
    (Json.object members).entry = .ok (.object members) :=
  congrArg Except.ok (toObject_members members)

/-- The value as a list of mappings, each as an object. An empty value of any type means the
    empty list, but inside the list an entry has to be a mapping. -/
def entries (j : Json) : Except Misfit (List Json) :=
  if j.isVacant then .ok []
  else
    match j.parts? with
    | some parts => parts.mapM entry
    | none => .error (.noParts j.typeName)

/-- A list of objects is read as it stands. -/
theorem entries_list_object (entries : List (List (Text × Json))) :
    (Json.list (entries.map .object)).entries = .ok (entries.map .object) := by
  have each : (entries.map Json.object).mapM entry = .ok (entries.map Json.object) := by
    induction entries with
    | nil => rfl
    | cons e rest ih =>
      simp [List.mapM_cons, entry_object, ih, bind, Except.bind, pure, Except.pure]
  cases entries with
  | nil => rfl
  | cons e rest => simpa [Json.entries, isVacant, parts?] using each

end Json

end RequestCatalog
