import TunnelServer.Tunnel.Record

/-!
# Refused calls

Why a tunnel's channel, or the making of a session, refused a call.  Refusals for the state of the
connection are told apart from refusals for what was handed in.
-/

namespace TunnelServer

/-- Why a call was refused. -/
inductive ChannelError where
  | notConnected (identity : Identity)
  | alreadyConnected (identity : Identity)
  | packetTooShort (actual required : Nat)
  | payloadTooLarge (actual mtu : Nat)
  | unusable (tunnelId : String) (reason : Unusable)
  deriving DecidableEq

namespace ChannelError

def message : ChannelError → String
  | notConnected identity => "tunnel " ++ identity.toText ++ " is not connected"
  | alreadyConnected identity => "tunnel " ++ identity.toText ++ " is already connected"
  | packetTooShort actual required =>
    s!"packet too short: {actual} bytes, at least {required} required"
  | payloadTooLarge actual mtu => s!"payload of {actual} bytes exceeds tunnel mtu {mtu}"
  | unusable tunnelId reason => "tunnel " ++ tunnelId ++ " cannot be used: " ++ reason.message

/-- Whether the state of the connection is the cause, and not the call's arguments. -/
def isStateError : ChannelError → Bool
  | notConnected _ | alreadyConnected _ => true
  | _ => false

end ChannelError

namespace TunnelRecord

/-- Checks that a session can be made of a record. -/
def validate (record : TunnelRecord) : Except ChannelError Unit :=
  match record.obstacle? with
  | some reason => .error (.unusable record.tunnelId reason)
  | none => .ok ()

end TunnelRecord

end TunnelServer
