import RequestCatalog.Text.Blank
import RequestCatalog.Text.Parts

/-! # Content types

  A call may tell what its content is: a type and a subtype with a slash between them, in any
  case, and perhaps parameters behind a semicolon. What cannot be read as a content type
  counts as plain text. Content is read as a value only if it is told to be one.
-/

namespace RequestCatalog

namespace Api

/-- What the content of a call is. -/
structure ContentType where
  /-- The type. -/
  type : List Char
  /-- The subtype. -/
  subtype : List Char
  deriving DecidableEq, Repr

namespace ContentType

/-- Plain text. -/
def plainText : ContentType := ⟨"text".toList, "plain".toList⟩

/-- A blank around a content type. The separators of files, groups, records and units count as
    blanks here. -/
def isMargin (c : Char) : Bool := isBlank c || ('\x1c' ≤ c && c ≤ '\x1f')

/-- The content type that a text names. -/
def ofText (text : String) : ContentType :=
  let (name, _) := cutAtFirst ';' text.toList
  let name := ((name.dropWhile isMargin).reverse.dropWhile isMargin).reverse
  match cutAt '/' (name.map Char.toLower) with
  | [type, subtype] => ⟨type, subtype⟩
  | _ => plainText

/-- The content is a value: of the type for values itself, or of one that builds on it. -/
def isValue (t : ContentType) : Bool :=
  t.type == "application".toList &&
    (t.subtype == "json".toList || "+json".toList.isSuffixOf t.subtype)

example : (ofText "Application/JSON ; charset=utf-8").isValue = true := by decide +kernel
example : (ofText "application/problem+json").isValue = true := by decide +kernel
example : (ofText "json").isValue = false := by decide +kernel
example : (ofText "").isValue = false := by decide +kernel

end ContentType

end Api

end RequestCatalog
