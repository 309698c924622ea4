import RequestCatalog.Instant
import RequestCatalog.Json.Wording
import RequestCatalog.Json.Written
import RequestCatalog.Record.FreeForm

/-! # Columns and what is sought in them

  A column has a type, and records are looked up by the value that a column holds. To
  compare them, what is held and what is sought are both brought into one of three forms:
  nothing, a number, or a text. The column decides which.

  * A column of texts holds texts. A number that is sought there becomes a text first.
  * Every other column turns a sought text into a number if the text writes one. Columns
    of numbers and priorities hold numbers, and times are held as texts. A free-form
    column holds a number that stands alone, or else the written form of its value.

  After that, numbers agree if they are worth the same, texts if they are the same text,
  and a number never agrees with a text.
-/

namespace RequestCatalog

/-- The types of columns. -/
inductive ColumnType where
  /-- A text. -/
  | text
  /-- A whole number. -/
  | whole
  /-- A place among siblings. -/
  | priority
  /-- A free-form value. -/
  | freeForm
  /-- A point in time. -/
  | time
  deriving DecidableEq, Repr

/-- What a column of a record holds. -/
inductive Held where
  /-- A text or nothing. -/
  | text (s : Option String)
  /-- A whole number or nothing. -/
  | whole (n : Option Int)
  /-- A place among siblings or nothing. -/
  | priority (x : Option Float)
  /-- A free-form value. -/
  | freeForm (f : FreeForm)
  /-- A point in time or nothing. -/
  | time (t : Option Instant)

namespace Held

/-- The type of the column. -/
def type : Held → ColumnType
  | .text _ => .text
  | .whole _ => .whole
  | .priority _ => .priority
  | .freeForm _ => .freeForm
  | .time _ => .time

/-- What is held, as a free-form value. -/
def toJson : Held → Json
  | .text s => .ofText? s
  | .whole n => n.elim .null .int
  | .priority x => x.elim .null .real
  | .freeForm f => f.value
  | .time t => .ofText? (t.map Instant.text)

end Held

/-! ### Cells -/

/-- What is compared. -/
inductive Cell where
  /-- Nothing. -/
  | nothing
  /-- A number. -/
  | number (n : Number)
  /-- A text. -/
  | text (s : String)

namespace Cell

/-- What is held agrees with what is sought. -/
def agrees : Cell → Cell → Bool
  | .nothing, .nothing => true
  | .number m, .number n => m.agrees n
  | .text s, .text t => s == t
  | _, _ => false

/-- A number becomes the text that stands for it. -/
def asText : Cell → Cell
  | .number n => n.text?.elim (.number n) .text
  | c => c

/-- A text that writes a number becomes that number. -/
def asNumber : Cell → Cell
  | .text s => (Number.ofText? s).elim (.text s) .number
  | c => c

/-- A free-form value: a number that was read, or the writing. -/
def ofFreeForm : FreeForm → Cell
  | .number n => .number n.number
  | f => .text (String.ofList f.value.written)

/-- A point in time. A time is kept to a millionth of a second. -/
def ofInstant (t : Instant) : Cell :=
  .text (t.date ++ " " ++ t.timeOfDay ++ ".000000")

end Cell

/-- What a column holds, in the form in which it is compared. -/
def Held.cell : Held → Cell
  | .text s => s.elim .nothing .text
  | .whole n => n.elim .nothing fun n => .number (.whole n)
  | .priority x => x.elim .nothing fun x => .number (.real x)
  | .freeForm f => .ofFreeForm f
  | .time t => t.elim .nothing .ofInstant

/-! ### What is sought -/

/-- Why the tables cannot take a value, neither to keep it nor to seek it. -/
inductive Unfit where
  /-- The whole number does not fit into 64 bits. -/
  | tooLarge
  /-- A list or an object, sought in a column of this type. -/
  | hasParts (type : ColumnType) (value : Json)
  /-- The text is garbled. -/
  | garbled (t : Text)

/-- The wording of it. -/
def Unfit.message : Unfit → String
  | .tooLarge => "Python int too large to convert to SQLite INTEGER"
  | .hasParts .priority value =>
    "float() argument must be a string or a real number, not '" ++ value.typeName ++ "'"
  | .hasParts .time _ =>
    "SQLite DateTime type only accepts Python datetime and date objects as input."
  | .hasParts _ value =>
    "Error binding parameter 1: type '" ++ value.typeName ++ "' is not supported"
  | .garbled t =>
    let (first, number) := t.firstHalves
    "'utf-8' codec can't encode " ++
      (if number = 1 then
        "character '" ++ String.ofList ((t.letters.drop first).take 1 |>.flatMap
            (Quoted.escape ' ')) ++
          "' in position " ++ toString first
      else "characters in position " ++ toString first ++ "-" ++ toString (first + number - 1)) ++
      ": surrogates not allowed"

/-- The value is found unfit before the tables are asked, by the type of the column. -/
def Unfit.isAboutSeeking : Unfit → Bool
  | .hasParts .priority _ | .hasParts .time _ => true
  | _ => false

namespace ColumnType

/-- What is sought, brought into the form that the column asks for. -/
def adapt : ColumnType → Cell → Cell
  | .text, c => c.asText
  | _, c => c.asNumber

/-- A value that is sought in a column of this type. A list or an object can be sought in a
    free-form column only, by its written form. -/
def seek (type : ColumnType) : Json → Except Unfit Cell
  | .null => .ok .nothing
  | .bool b => .ok (type.adapt (.number (.whole (if b then 1 else 0))))
  | .int n => if fits64 n then .ok (type.adapt (.number (.whole n))) else .error .tooLarge
  | .real x => .ok (type.adapt (.number (.real x)))
  | .text (.sound s) => .ok (type.adapt (.text s))
  | .text t => .error (.garbled t)
  | j =>
    if type = .freeForm then .ok (.text (String.ofList j.written)) else .error (.hasParts type j)

example : (adapt .text (.number (.real 100000.0))).agrees (.text "100000.0") = true := by
  decide +kernel
example : (adapt .whole (.text " 2e2")).agrees (.number (.whole 200)) = true := by
  decide +kernel

end ColumnType

end RequestCatalog
