import RequestCatalog.Address.Host.Company
import RequestCatalog.Address.Host.Composition
import RequestCatalog.Address.Host.Direction
import RequestCatalog.Address.Host.Punycode
import RequestCatalog.Text.Case
import RequestCatalog.Text.Parts

/-! # Names of hosts

  A name is made of labels with dots between them, and may end in a dot. Names in plain
  characters are taken as they are. Any other name is written in small letters, each of its
  labels is checked, and a label that is not plain is sent in plain characters behind a
  beginning that tells so. A label that has this beginning already is checked as the label that
  it stands for.

  A label is sound if it is composed, has no hyphen at either end nor two where the beginning
  would have them, does not start with a mark, holds nothing but what a name may be written
  with, and keeps to one direction.
-/

namespace RequestCatalog

namespace Host

/-- What a label in plain characters begins with if it stands for another one. -/
def stand : List Char := ['x', 'n', '-', '-']

/-- The hyphens of a label stand where they may. -/
def hyphensFit (label : List Char) : Bool :=
  label.head? != some '-' && label.getLast? != some '-' && (label.drop 2).take 2 != ['-', '-']

/-- A label of a name. -/
def isLabel (label : List Char) : Bool :=
  !label.isEmpty && isComposed label && hyphensFit label && !label.head?.any isMark &&
    allFit [] label && keepsDirection label

/-- What a label in plain characters stands for. -/
def meant? (label : List Char) : Option (List Char) :=
  if label.take 4 = stand then
    let written := label.drop 4
    if written.isEmpty ∨ written.getLast? = some '-' then none else Punycode.decode? written
  else some label

/-- The most characters that a label may have when it is sent. -/
def longestLabel : Nat := 63

/-- A label as it is sent. -/
def sentLabel? (label : List Char) : Option (List Char) := do
  if label.length > longestLabel then none
  if label.all isPlain then
    if isLabel (← meant? label) then some label else none
  else if isLabel label then
    let sent := stand ++ Punycode.encode label
    if sent.length > longestLabel then none else some sent
  else none

/-- The most characters that a name may have when it is sent, a dot at its end apart. -/
def longestName : Nat := 253

/-- A character between labels: a dot, or one of those that stand for a dot elsewhere. -/
def isDot (c : Char) : Bool := c == '.' || c == '。' || c == '．' || c == '｡'

/-- The labels of a name. A dot at its end belongs to none. -/
def labels (name : List Char) : List (List Char) :=
  let parts := cutAt '.' (name.map fun c => if isDot c then '.' else c)
  if parts.getLast? = some [] then parts.dropLast else parts

/-- A name as it is sent. -/
def sentName? (name : List Char) : Option (List Char) := do
  if name.all isPlain then some name
  else
    let name := name.flatMap small
    let sent := ['.'].intercalate (← (labels name).mapM sentLabel?)
    if sent.isEmpty ∨ sent.length > longestName then none
    else some (if name.getLast?.any isDot then sent ++ ['.'] else sent)

example : sentName? "bücher.".toList = some "xn--bcher-kva.".toList := by decide +kernel
example : sentName? "é_b".toList = none := by decide +kernel
example : sentName? "a..é".toList = none := by decide +kernel
example : sentName? "a_b".toList = some "a_b".toList := by decide +kernel

end Host

end RequestCatalog
