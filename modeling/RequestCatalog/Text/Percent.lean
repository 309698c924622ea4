import RequestCatalog.Text.Hex
import RequestCatalog.Text.Utf8

/-! # Percent signs in addresses

  In an address a percent sign and two base-sixteen digits write a byte; every other
  character stands for itself. The bytes together spell the characters that are meant.
-/

namespace RequestCatalog

namespace Percent

/-- The bytes that an address writes. -/
def bytes : List Char → List Nat
  | '%' :: a :: b :: rest =>
    match hexValue? a, hexValue? b with
    | some high, some low => (high * 16 + low) :: bytes rest
    | _, _ => Utf8.encodeChar '%' ++ bytes (a :: b :: rest)
  | c :: rest => Utf8.encodeChar c ++ bytes rest
  | [] => []

/-- The text that an address means. -/
def decode (address : String) : String :=
  String.ofList (Utf8.decode (bytes address.toList))

end Percent

end RequestCatalog
