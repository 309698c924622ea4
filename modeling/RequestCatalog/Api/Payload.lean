import RequestCatalog.Api.Check
import RequestCatalog.Json.Written
import RequestCatalog.Text.Encoding

/-! # What a call carries

  A call carries nothing, a value, or a text that may write a value. The bytes of a text
  tell in which encoding they are to be read. A text that is no value is refused at the
  place where it stops being one. What cannot be read at all, because its bytes spell no
  characters or because it goes beyond the limits of the reader, is refused as a whole.

  A call may also tell that what it carries is no value. Then it is left unread.
-/

namespace RequestCatalog

namespace Api

/-- What a call carries. -/
inductive Payload where
  /-- Nothing. -/
  | none
  /-- A text. -/
  | text (s : String)
  /-- A value, as it is once its text was read. -/
  | json (j : Json)

namespace Payload

/-- How many lists and objects may stand inside each other in a body. -/
def greatestNesting : Nat := 960

/-- How far bodies are read. -/
def limits : Json.Limits where
  digits := some Json.greatestDigits
  nesting := some greatestNesting

/-- The value that a text writes. -/
def ofText (s : String) : Checked Json :=
  let bytes := s.toList.flatMap Utf8.encodeChar
  match (Encoding.detect bytes).decode? bytes with
  | Option.none => .refuse .unreadable
  | some letters =>
    match Json.read limits letters with
    | .ok j => .sound j
    | .error (.broken place) => ((Checked.refuse .notJson).within (toString place)).within "body"
    | .error .excessive => .refuse .unreadable

/-- The value that a payload carries, if it carries any. -/
def value : Payload → Checked (Option Json)
  | .none => .sound Option.none
  | .json j =>
    if (j.obstacle? greatestNesting).isNone then .sound (some j) else .refuse .unreadable
  | .text s => if s.isEmpty then .sound Option.none else some <$> ofText s

/-- What a payload carries, left unread: a text, if there is any. -/
def unread : Payload → Option Json
  | .none => Option.none
  | .json j => some (.text (.sound (String.ofList j.written)))
  | .text s => if s.isEmpty then Option.none else some (.text s)

end Payload

end Api

end RequestCatalog
