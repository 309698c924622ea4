import RequestCatalog.Json.Reader
import RequestCatalog.Kind
import RequestCatalog.Text.Blank
import RequestCatalog.Text.Parts

/-! # Checking what callers send

  Each field of a body is checked on its own. A check either accepts a value, and says
  what it was read as, or lists its complaints. Checks are put together so that no
  complaint hides another one: all of them are listed, in the order of the fields.

  A complaint tells where the value stands and what is wrong with it.
-/

namespace RequestCatalog

namespace Api

/-! ### Complaints -/

/-- What is wrong with a value. -/
inductive Flaw where
  /-- A field that has to be there is not. -/
  | missing
  /-- The value is no text. -/
  | notText
  /-- The text is garbled. -/
  | garbledText
  /-- The value is no mapping. -/
  | notMapping
  /-- The value is no list. -/
  | notList
  /-- The value is no object. -/
  | notObject
  /-- The value is no number. -/
  | notNumber
  /-- The text writes no number. -/
  | unreadableNumber
  /-- The number is infinite or NaN. -/
  | notFinite
  /-- The value is no truth value. -/
  | notFlag
  /-- The value has the right type but stands for neither truth value. -/
  | unreadableFlag
  /-- The value is none of the HTTP methods. -/
  | notMethod
  /-- The value is none of the body types. -/
  | notBodyType
  /-- The value is none of the origins of a write. -/
  | notSource
  /-- The text is no value. -/
  | notJson
  /-- The body cannot be read at all. -/
  | unreadable
  deriving DecidableEq, Repr

/-- The wording of what is wrong. -/
def Flaw.message : Flaw → String
  | .missing => "Field required"
  | .notText => "Input should be a valid string"
  | .garbledText =>
    "Input should be a valid string, unable to parse raw data as a unicode string"
  | .notMapping => "Input should be a valid dictionary"
  | .notList => "Input should be a valid list"
  | .notObject => "Input should be a valid dictionary or object to extract fields from"
  | .notNumber => "Input should be a valid number"
  | .unreadableNumber => "Input should be a valid number, unable to parse string as a number"
  | .notFinite => "Input should be a finite number"
  | .notFlag => "Input should be a valid boolean"
  | .unreadableFlag => "Input should be a valid boolean, unable to interpret input"
  | .notMethod =>
    "Input should be 'GET', 'POST', 'PUT', 'DELETE', 'PATCH', 'HEAD' or 'OPTIONS'"
  | .notBodyType => "Input should be 'json', 'form' or 'raw'"
  | .notSource => "Input should be 'window', 'plugin', 'background', 'import' or 'sync'"
  | .notJson => "JSON decode error"
  | .unreadable => "There was an error parsing the body"

/-- One complaint. -/
structure Complaint where
  /-- Where the value stands, from the outside in. -/
  loc : List String
  /-- What is wrong with it. -/
  flaw : Flaw
  deriving DecidableEq, Repr

/-- The wording of a complaint. -/
def Complaint.message (c : Complaint) : String :=
  " -> ".intercalate c.loc ++ ": " ++ c.flaw.message

/-! ### Checked values -/

/-- The outcome of a check. -/
inductive Checked (α : Type) where
  /-- The value is accepted. -/
  | sound (a : α)
  /-- The value is refused. -/
  | flawed (complaints : List Complaint)

namespace Checked

/-- The complaints of a check. -/
def complaints {α : Type} : Checked α → List Complaint
  | .sound _ => []
  | .flawed cs => cs

/-- The accepted value. -/
def toOption {α : Type} : Checked α → Option α
  | .sound a => some a
  | .flawed _ => none

/-- Put two checks together. The complaints of both are listed. -/
def both {α β : Type} : Checked (α → β) → Checked α → Checked β
  | .sound f, .sound a => .sound (f a)
  | .sound _, .flawed cs => .flawed cs
  | .flawed cs, .sound _ => .flawed cs
  | .flawed cs, .flawed ds => .flawed (cs ++ ds)

instance : Applicative Checked where
  pure := .sound
  seq f a := both f (a ())

@[simp] theorem complaints_pure {α : Type} (a : α) :
    (pure a : Checked α).complaints = [] := rfl

@[simp] theorem complaints_seq {α β : Type} (f : Checked (α → β)) (a : Checked α) :
    (f <*> a).complaints = f.complaints ++ a.complaints := by
  cases f <;> cases a <;> simp [Seq.seq, both, complaints]

@[simp] theorem complaints_map {α β : Type} (f : α → β) (a : Checked α) :
    (f <$> a).complaints = a.complaints := by
  cases a <;> rfl

/-- The check is of a value that stands further inside. -/
def within {α : Type} (part : String) : Checked α → Checked α
  | .sound a => .sound a
  | .flawed cs => .flawed (cs.map fun c => { c with loc := part :: c.loc })

@[simp] theorem complaints_within {α : Type} (part : String) (a : Checked α) :
    (a.within part).complaints = a.complaints.map fun c => { c with loc := part :: c.loc } := by
  cases a <;> rfl

/-- A value with one thing wrong with it. -/
def refuse {α : Type} (flaw : Flaw) : Checked α := .flawed [⟨[], flaw⟩]

end Checked

open Checked

/-! ### Fields -/

/-- A field that has to be there. -/
def required {α : Type} (members : List (Text × Json)) (name : String)
    (check : Json → Checked α) : Checked α :=
  match members.lookup (.sound name) with
  | some j => (check j).within name
  | none => (refuse .missing).within name

/-- A field that may be left out. -/
def optional {α : Type} (members : List (Text × Json)) (name : String) (default : α)
    (check : Json → Checked α) : Checked α :=
  match members.lookup (.sound name) with
  | some j => (check j).within name
  | none => pure default

/-! ### Checks of single values -/

/-- A text. It may be garbled. -/
def text : Json → Checked Text
  | .text t => pure t
  | _ => refuse .notText

/-- A text or nothing. -/
def textOrNull : Json → Checked (Option Text)
  | .null => pure none
  | j => some <$> text j

/-- One of several texts. -/
def oneOf (choices : List String) (flaw : Flaw) : Json → Checked String
  | .text (.sound s) => if choices.contains s then pure s else refuse flaw
  | .text (.garbled ..) => refuse .garbledText
  | _ => refuse flaw

/-- One of several texts, or nothing. -/
def oneOfOrNull (choices : List String) (flaw : Flaw) : Json → Checked (Option String)
  | .null => pure none
  | j => some <$> oneOf choices flaw j

/-- A mapping. -/
def mapping : Json → Checked Json
  | .object members => pure (.object members)
  | _ => refuse .notMapping

/-! ### Numbers -/

/-- A finite number. -/
def finite (x : Float) : Checked Float :=
  if x.isFinite then pure x else refuse .notFinite

/-- The number that a text without blanks writes: a word for infinity or NaN, or a numeral. -/
def plainNumber? (cs : List Char) : Option Float :=
  let (negative, unsigned) := Decimal.signOf cs
  let word := String.ofList (unsigned.map Char.toLower)
  if word = "inf" ∨ word = "infinity" then
    some (if negative then -Json.infinity else Json.infinity)
  else if word = "nan" then some Json.nan
  else (Decimal.read? cs).map fun (d, _) => d.toFloat

/-- A text without the low lines that group its characters. A low line stands between two
    other characters. -/
def ungrouped? (cs : List Char) : Option (List Char) :=
  let groups := cutAt '_' cs
  if 1 < groups.length && groups.all (!·.isEmpty) then some groups.flatten else none

/-- The number that a text writes. Either blanks stand around it or low lines inside it. -/
def number? (s : String) : Option Float :=
  plainNumber? (trimmed s.toList) <|> ((ungrouped? s.toList).bind plainNumber?)

/-- A priority: a finite number, a truth value, or a text that writes a finite number. A
    whole number too large for a floating-point number is no number here. -/
def priority : Json → Checked Float
  | .int n =>
    let x := Float.ofInt n
    if x.isFinite then pure x else refuse .notNumber
  | .real x => finite x
  | .bool b => pure (if b then 1.0 else 0.0)
  | .text (.sound s) =>
    match number? s with
    | some x => finite x
    | none => refuse .unreadableNumber
  | .text (.garbled ..) => refuse .garbledText
  | _ => refuse .notNumber

/-! ### Truth values -/

/-- The texts that stand for a truth value, in small letters. -/
def flagWords : List (String × Bool) :=
  [("0", false), ("off", false), ("f", false), ("false", false), ("n", false), ("no", false),
   ("1", true), ("on", true), ("t", true), ("true", true), ("y", true), ("yes", true)]

/-- A truth value: itself, the number 0 or 1, or a text that stands for one. A whole number
    is looked at only where it fits into 64 bits. -/
def flag : Json → Checked Bool
  | .bool b => pure b
  | .int n =>
    if n = 0 then pure false
    else if n = 1 then pure true
    else if -9223372036854775808 ≤ n ∧ n < 9223372036854775808 then refuse .unreadableFlag
    else refuse .notFlag
  | .real x =>
    if x == 0.0 then pure false
    else if x == 1.0 then pure true
    else if x.floor == x ∧ x.abs < 9223372036854775808.0 then refuse .unreadableFlag
    else refuse .notFlag
  | .text (.sound s) =>
    match flagWords.lookup (s.map Char.toLower) with
    | some b => pure b
    | none => refuse .unreadableFlag
  | .text (.garbled ..) => refuse .garbledText
  | _ => refuse .notFlag

/-! ### Lists of entries -/

/-- A header or metadata entry. -/
structure HeaderEntry where
  /-- The name. -/
  name : Text
  /-- The value. -/
  value : Text
  /-- The entry is to be sent. -/
  enabled : Bool
  /-- An identifier of the entry, if it has one. -/
  id : Option Text
  deriving DecidableEq

/-- An entry as a value. -/
def HeaderEntry.toJson (e : HeaderEntry) : Json :=
  .object [("name", .text e.name), ("value", .text e.value), ("enabled", .bool e.enabled),
    ("id", e.id.elim .null .text)]

/-- A header or metadata entry. Other members of the object are dropped. -/
def headerEntry : Json → Checked HeaderEntry
  | .object members =>
    HeaderEntry.mk <$> required members "name" text <*> optional members "value" (.sound "") text
      <*> optional members "enabled" true flag <*> optional members "id" none textOrNull
  | _ => refuse .notObject

/-- Several entries, the first at this position. -/
def headerEntriesFrom (position : Nat) : List Json → Checked (List HeaderEntry)
  | [] => pure []
  | j :: rest =>
    List.cons <$> (headerEntry j).within (toString position)
      <*> headerEntriesFrom (position + 1) rest

/-- A list of entries. -/
def headerEntries : Json → Checked (List HeaderEntry)
  | .list items => headerEntriesFrom 0 items
  | _ => refuse .notList

end Api

end RequestCatalog
