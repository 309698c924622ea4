import RequestCatalog.Text
import RequestCatalog.Text.Hex
import RequestCatalog.Text.Printable

/-! # Quoted texts in messages

  Inside a message a text stands between two quotes, and a message stays on one line:
  what cannot be printed is written by its number. The plain quotes are single ones; a
  text that holds single quotes and no double ones stands between double ones.
-/

namespace RequestCatalog

namespace Quoted

/-- The quote that a text stands between. -/
def quoteFor (letters : List Letter) : Char :=
  if letters.contains (.char '\'') && !letters.contains (.char '"') then '"' else '\''

/-- A letter by its number, in as many digits as its size asks for. -/
def byNumber (n : Nat) : List Char :=
  if n < 0x100 then '\\' :: 'x' :: hexDigits 2 n
  else if n < 0x10000 then '\\' :: 'u' :: hexDigits 4 n
  else '\\' :: 'U' :: hexDigits 8 n

/-- A letter as it is written between quotes. -/
def escape (quote : Char) : Letter → List Char
  | .half n => byNumber (0xD800 + n)
  | .char c =>
    if c = quote || c = '\\' then ['\\', c]
    else if c = '\t' then ['\\', 't']
    else if c = '\n' then ['\\', 'n']
    else if c = '\r' then ['\\', 'r']
    else if isPrintable c then [c]
    else byNumber c.toNat

/-- A text with its quotes. -/
def render (t : Text) : String :=
  let quote := quoteFor t.letters
  String.ofList (quote :: t.letters.flatMap (escape quote) ++ [quote])

example : render "it's" = "\"it's\"" := by decide +kernel
example : render "a\n'\"\x7f" = "'a\\n\\'\"\\x7f'" := by decide +kernel

end Quoted

end RequestCatalog
