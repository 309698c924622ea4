import RequestCatalog.Text.Hex
import RequestCatalog.Text.Parts

/-! # Hosts

  A host is a name, or a number in one of two written forms, which are described here. Four
  numbers with dots between them give 32 bits. Up to eight groups of base-sixteen digits with
  colons between them, inside brackets, give 128 bits; two colons side by side stand once for
  as many groups of zeros as are missing.
-/

namespace RequestCatalog

namespace Host

/-! ### Numbers with dots -/

/-- The text is taken for a number with dots: four groups of digits with dots between them. -/
def looksDotted (host : List Char) : Bool :=
  let parts := cutAt '.' host
  parts.length == 4 && parts.all fun part => !part.isEmpty && part.all Char.isDigit

/-- One of the numbers between dots: at most 255, with no zero in front of another digit. -/
def isOctet (digits : List Char) : Bool :=
  !digits.isEmpty && digits.length ≤ 3 && digits.all Char.isDigit &&
    (digits.head? != some '0' || digits.length == 1) &&
    digits.foldl (fun n c => 10 * n + (c.toNat - 48)) 0 ≤ 255

/-- Four numbers with dots between them. -/
def isDotted (host : List Char) : Bool :=
  let parts := cutAt '.' host
  parts.length == 4 && parts.all isOctet

/-! ### Groups with colons -/

/-- A group of one to four base-sixteen digits. -/
def isGroup (digits : List Char) : Bool :=
  !digits.isEmpty && digits.length ≤ 4 && digits.all fun c => (hexValue? c).isSome

/-- The groups before and behind the place where groups are missing. An end that is empty
    belongs to two colons that stand there, and to nothing else. -/
def groupsAround (before behind : List (List Char)) : Option (List (List Char)) := do
  let before ←
    match before with
    | [] :: rest => if rest.isEmpty then some [] else none
    | groups => some groups
  let behind ←
    match behind.reverse with
    | [] :: rest => if rest.isEmpty then some [] else none
    | _ => some behind
  if before.length + behind.length < 8 then some (before ++ behind) else none

/-- The groups that are written between colons, one place without groups allowed. -/
def isColoned (parts : List (List Char)) : Bool :=
  let inner := (parts.drop 1).dropLast
  match inner.filter List.isEmpty with
  | [] => parts.length == 8 && parts.all isGroup
  | [_] =>
    let before := parts.take 1 ++ inner.takeWhile (!·.isEmpty)
    (groupsAround before (parts.drop (before.length + 1))).any fun groups => groups.all isGroup
  | _ => false

/-- Groups with colons between them. A number with dots may stand for the last two groups. A
    zone behind a percent sign is not part of the number. -/
def isBracketed (host : List Char) : Bool :=
  let (number, zone) := cutAtFirst '%' host
  let parts := cutAt ':' number
  let last := parts.getLast?.getD []
  zone.all (fun zone => !zone.isEmpty && !zone.contains '%') && 3 ≤ parts.length &&
    if last.contains '.' then
      isDotted last && parts.length ≤ 8 && isColoned (parts.dropLast ++ [['0'], ['0']])
    else parts.length ≤ 9 && isColoned parts

example : isDotted "127.0.0.1".toList = true := by decide +kernel
example : isDotted "127.0.0.01".toList = false := by decide +kernel
example : looksDotted "127.0.0.256".toList = true := by decide +kernel
example : looksDotted "127-0-0-1".toList = false := by decide +kernel
example : isBracketed "::1".toList = true := by decide +kernel
example : isBracketed "1::2:3%eth0".toList = true := by decide +kernel
example : isBracketed "::ffff:10.0.0.1".toList = true := by decide +kernel
example : isBracketed "1:2:3".toList = false := by decide +kernel
example : isBracketed "1::2::3".toList = false := by decide +kernel

end Host

end RequestCatalog
