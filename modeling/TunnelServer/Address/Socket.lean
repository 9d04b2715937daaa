import TunnelServer.Address.Ipv6.Text

/-!
# Socket addresses

Where packets come from and go to: an address of either family with a port, and for IPv6 the scope
in which a link-local address is meant.  Two peers are the same only if all of it agrees; an IPv4
peer and its IPv4-mapped twin differ.
-/

namespace TunnelServer

/-- The address of a peer's socket. -/
inductive SocketAddress where
  | v4 (address : Ipv4Address) (port : UInt16)
  | v6 (address : Ipv6Address) (port : UInt16) (scope : UInt32)
  deriving DecidableEq

namespace SocketAddress

/-- The text of a socket address; scope 0 is left out. -/
def toText : SocketAddress → String
  | v4 address port => address.toText ++ ":" ++ toString port.toNat
  | v6 address port scope =>
    let zone := if scope = 0 then "" else "%" ++ toString scope.toNat
    "[" ++ address.toText ++ zone ++ "]:" ++ toString port.toNat

/-- How a port is written. -/
def portForm : Numeral.Form where
  base := 10
  limit := 0xffff

/-- How a scope is written. -/
def scopeForm : Numeral.Form where
  base := 10
  limit := 0xffffffff

/-- Reads the colon and the port that end a socket address. -/
def readPort? : List Char → Option UInt16
  | ':' :: rest =>
    match portForm.read? rest with
    | some (port, []) => some (UInt16.ofNat port)
    | _ => none
  | _ => none

/-- Reads the scope after a percent sign; without one the scope is 0. -/
def readScope : List Char → UInt32 × List Char
  | '%' :: rest =>
    match scopeForm.read? rest with
    | some (scope, rest) => (UInt32.ofNat scope, rest)
    | none => (0, '%' :: rest)
  | rest => (0, rest)

/-- Reads the scope, the closing bracket and the port of an IPv6 socket address. -/
def readAfterIpv6? (address : Ipv6Address) (text : List Char) : Option SocketAddress :=
  let (scope, rest) := readScope text
  match rest with
  | ']' :: rest => (readPort? rest).map fun port => v6 address port scope
  | _ => none

/-- The socket address that a text names. -/
def ofText? (text : String) : Option SocketAddress :=
  match text.toList with
  | '[' :: inner => Ipv6Address.readFront? inner >>= fun (address, rest) =>
      readAfterIpv6? address rest
  | characters => Ipv4Address.readFront? characters >>= fun (address, rest) =>
      (readPort? rest).map (v4 address)

/-- The IPv4 address that a server listening here is reached under. -/
def ipv4 : SocketAddress → Ipv4Address
  | v4 address _ => address
  | v6 address _ _ => address.mappedIpv4?.getD Ipv4Address.unspecified

end SocketAddress

end TunnelServer
