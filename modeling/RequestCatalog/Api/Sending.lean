import RequestCatalog.Address
import RequestCatalog.Api.Service

/-! # Sending calls

  A caller gives an address as a text, a method in any case, and header lines. A call can be
  sent if its address can, if its header lines and its host are plain, and if something is
  ever sent by the scheme of its address. A call that cannot be sent is never made.
-/

namespace RequestCatalog

namespace Api

/-- A call as a caller gives it. Named values that come with the call take the place of those
    in the address. -/
structure Outgoing where
  /-- The method. -/
  method : String
  /-- The address. -/
  address : String
  /-- The named values that come with the call. -/
  query : Option (List (String × String))
  /-- The header lines, in order. -/
  headers : List (String × String)
  /-- What the call carries. -/
  payload : Payload

/-- Why a call cannot be sent. -/
inductive Unsendable where
  /-- Its address cannot be sent. -/
  | address (flaw : Address.Flaw)
  /-- In a header line or in the host this character stands where only a plain one may, and so
      do others up to the last position. -/
  | stranger (c : Char) (first last : Nat)
  /-- Nothing is ever sent by this scheme. -/
  | scheme (name : String)
  deriving DecidableEq, Repr

/-- The wording of it. -/
def Unsendable.message : Unsendable → String
  | .address flaw => flaw.message
  | .stranger c first last =>
    "'ascii' codec can't encode " ++
      (if first = last then
        "character '" ++ String.ofList (Quoted.byNumber c.toNat) ++ "' in position " ++
            toString first
      else "characters in position " ++ toString first ++ "-" ++ toString last) ++
      ": ordinal not in range(128)"
  | .scheme name => Quoted.render name

/-- Whether a text is plain throughout. -/
def plainText (text : String) : Except Unsendable Unit :=
  let plain := text.toList.takeWhile isPlain
  match text.toList.drop plain.length with
  | [] => .ok ()
  | c :: rest =>
    .error (.stranger c plain.length (plain.length + (rest.takeWhile (!isPlain ·)).length))

/-- The schemes that something is sent by. -/
def schemes : List String := ["http", "https", "ws", "wss"]

namespace Outgoing

/-- Whether all header lines are plain. -/
def plainHeaders (call : Outgoing) : Except Unsendable Unit :=
  call.headers.forM fun (name, value) => do
    plainText name
    plainText value

/-- The call as it arrives if this is its address. -/
def arriving (call : Outgoing) (address : Address) : Incoming where
  method := inCapitals call.method
  path := address.path
  query := call.query.getD address.query
  headers := call.headers
  payload := call.payload

/-- The call as it arrives, or why it cannot be sent. -/
def sent (call : Outgoing) : Except Unsendable Incoming := do
  let address ← (Address.read call.address).mapError .address
  call.plainHeaders
  if let some destination := address.destination then
    plainText destination.host
    if !schemes.contains destination.scheme then throw (.scheme destination.scheme)
  return call.arriving address

end Outgoing

example : (plainText "window").toOption = some () := by decide +kernel
example : (plainText "café").toOption = none := by decide +kernel
example : Unsendable.message (.stranger 'é' 3 3) =
    "'ascii' codec can't encode character '\\xe9' in position 3: ordinal not in range(128)" := by
  decide +kernel

end Api

end RequestCatalog
