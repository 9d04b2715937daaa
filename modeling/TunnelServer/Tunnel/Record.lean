import TunnelServer.Address.Ipv6.Text
import TunnelServer.Packet.Signature

/-!
# Tunnel records

A record configures one tunnel: its two ends, its secret, its sizes and intervals.  A session can be
made of it only if nobody has disabled the tunnel and nothing that a session needs is missing.
-/

namespace TunnelServer

/-- Whether one of the parties lets a tunnel run. -/
inductive TunnelState where
  | enabled | disabled
  deriving DecidableEq

/-- The configuration of one tunnel. -/
structure TunnelRecord where
  tunnelId : String
  tunnelName : String := ""
  /-- The client's end, which is the tunnel's identity. -/
  endpoint : Ipv6Address
  /-- The server's end. -/
  pop : Ipv6Address
  prefixLength : UInt8 := 64
  popName : String := ""
  /-- The address the server is reached under, known once it listens. -/
  ipv4Pop : Option Ipv4Address := none
  userState : TunnelState := .enabled
  adminState : TunnelState := .enabled
  password : String
  /-- Seconds between heartbeats. -/
  heartbeatInterval : UInt32 := 60
  mtu : UInt16 := 1280
  deriving DecidableEq

/-- Why no session can be made of a record. -/
inductive Unusable where
  | disabled | zeroMtu | emptyPassword | missingIpv4Pop
  deriving DecidableEq

namespace Unusable

def message : Unusable → String
  | disabled => "tunnel is disabled"
  | zeroMtu => "mtu is zero"
  | emptyPassword => "password is empty"
  | missingIpv4Pop => "no PoP IPv4 address"

end Unusable

namespace TunnelRecord

/-- A tunnel runs only if its user and the administrator both let it. -/
def isEnabled (record : TunnelRecord) : Bool :=
  record.userState = .enabled && record.adminState = .enabled

/-- The first reason, in this order, that keeps a session from being made of a record. -/
def obstacle? (record : TunnelRecord) : Option Unusable :=
  if !record.isEnabled then some .disabled
  else if record.mtu = 0 then some .zeroMtu
  else if record.password.isEmpty then some .emptyPassword
  else if record.ipv4Pop.isNone then some .missingIpv4Pop
  else none

/-- The key that both ends derive from the password. -/
def sharedKey (record : TunnelRecord) : Packet.SharedKey := .ofSecret record.password

end TunnelRecord

end TunnelServer
