import RequestCatalog.Json
import RequestCatalog.Decimal.Shortest
import RequestCatalog.Text.Encoding
import RequestCatalog.Text.Hex

/-! # Written values

  A free-form column holds the written form of a value, and values are looked up by it:
  two values agree if they are written alike, member by member in their order. The
  written form is plain. A comma and a colon are followed by one blank, and a character
  that is not a plain printed one is escaped, by two numbers if it needs two units.
-/

namespace RequestCatalog

namespace Json

/-- A letter by its units. -/
def escapeByUnits (l : Letter) : List Char :=
  (Encoding.unitsOfLetter l).flatMap fun unit => '\\' :: 'u' :: hexDigits 4 unit

/-- A letter inside quotes. -/
def escape : Letter → List Char
  | .char '"' => ['\\', '"']
  | .char '\\' => ['\\', '\\']
  | .char '\n' => ['\\', 'n']
  | .char '\r' => ['\\', 'r']
  | .char '\t' => ['\\', 't']
  | .char '\x0c' => ['\\', 'f']
  | .char '\x08' => ['\\', 'b']
  | .char c => if ' ' ≤ c ∧ c ≤ '~' then [c] else escapeByUnits (.char c)
  | .half n => escapeByUnits (.half n)

/-- A text with its quotes. -/
def writtenText (t : Text) : List Char :=
  '"' :: t.letters.flatMap escape ++ ['"']

/-- A floating-point number. -/
def writtenReal (x : Float) : String :=
  if x.isNaN then "NaN"
  else if x.isInf then if Binary.isNegative x then "-Infinity" else "Infinity"
  else Shortest.render x

mutual

/-- The written form of a value. -/
def written : Json → List Char
  | .null => "null".toList
  | .bool b => (if b then "true" else "false").toList
  | .int n => (toString n).toList
  | .real x => (writtenReal x).toList
  | .text t => writtenText t
  | .list [] => ['[', ']']
  | .list (j :: rest) => '[' :: j.written ++ writtenItems rest ++ [']']
  | .object [] => ['\x7b', '\x7d']
  | .object ((name, j) :: rest) =>
    '\x7b' :: writtenText name ++ [':', ' '] ++ j.written ++ writtenMembers rest ++ ['\x7d']

/-- The items behind the first one, each after a comma. -/
def writtenItems : List Json → List Char
  | [] => []
  | j :: rest => ',' :: ' ' :: j.written ++ writtenItems rest

/-- The members behind the first one, each after a comma. -/
def writtenMembers : List (Text × Json) → List Char
  | [] => []
  | (name, j) :: rest =>
    ',' :: ' ' :: writtenText name ++ [':', ' '] ++ j.written ++ writtenMembers rest

end

example : written (.object [("a", .list [.int 1, .text "é"])]) =
    "\x7b\"a\": [1, \"\\u00e9\"]\x7d".toList := by decide +kernel

end Json

end RequestCatalog
