import TunnelServer.Json.Parser
import TunnelServer.Tunnel.Record

/-!
# Tunnel records as JSON

A record is written as an object with its fields in a fixed order, all but the server's IPv4
address, which belongs to a running server and not to the record.  It is read from an object whose
members come in any order, or from an array of all twelve fields in order.  Members that no record
has are passed over; a field given twice, or one of another type, is refused.
-/

namespace TunnelServer.TunnelRecord

open TunnelServer.Json (Value)

/-! ## Writing -/

/-- The spelling of a state. -/
def stateName : TunnelState → String
  | .enabled => "enabled"
  | .disabled => "disabled"

/-- The members of a record's object, in order. -/
def members (record : TunnelRecord) : List (String × Value) :=
  [("tunnel_id", .ofText record.tunnelId),
    ("tunnel_name", .ofText record.tunnelName),
    ("ipv6_endpoint", .ofText record.endpoint.toText),
    ("ipv6_pop", .ofText record.pop.toText),
    ("prefix_length", .ofNatural record.prefixLength.toNat),
    ("pop_name", .ofText record.popName),
    ("user_state", .ofText (stateName record.userState)),
    ("admin_state", .ofText (stateName record.adminState)),
    ("password", .ofText record.password),
    ("heartbeat_interval", .ofNatural record.heartbeatInterval.toNat),
    ("mtu", .ofNatural record.mtu.toNat)]

/-- The object of a record. -/
def toJson (record : TunnelRecord) : Value :=
  .object (record.members.map (Prod.map Json.pointsOf id))

/-! ## Reading -/

/-- The fields of a record, in the order in which an array lists them. -/
def fieldNames : List String :=
  ["tunnel_id", "tunnel_name", "ipv6_endpoint", "ipv6_pop", "prefix_length", "pop_name", "ipv4_pop",
    "user_state", "admin_state", "password", "heartbeat_interval", "mtu"]

/-- A natural number up to a limit. -/
def readNatural? (limit : Nat) (value : Value) : Option Nat :=
  value.natural?.filter (· ≤ limit)

/-- A state by its name. -/
def stateOfName? : String → Option TunnelState
  | "enabled" => some .enabled
  | "disabled" => some .disabled
  | _ => none

/-- A state, spelled as a string or as an object with that one key and the value null. -/
def readState? : Value → Option TunnelState
  | .object [(key, .null)] => Json.charactersOf? key >>= fun name => stateOfName? (String.ofList name)
  | value => value.text? >>= stateOfName?

/-- An IPv6 address in a string. -/
def readIpv6? (value : Value) : Option Ipv6Address := value.text? >>= Ipv6Address.ofText?

/-- An IPv4 address in a string, or null for none. -/
def readIpv4? : Value → Option (Option Ipv4Address)
  | .null => some none
  | value => (value.text? >>= Ipv4Address.ofText?).map some

/-- The values given for a field. -/
def valuesOf (members : List (String × Value)) (name : String) : List Value :=
  (members.filter (·.1 = name)).map Prod.snd

/-- A field that has to be given, once. -/
def required? {α : Type} (members : List (String × Value)) (name : String)
    (read? : Value → Option α) : Option α :=
  match valuesOf members name with
  | [value] => read? value
  | _ => none

/-- A field that may be left out, for which a default then stands. -/
def optional? {α : Type} (members : List (String × Value)) (name : String) (default : α)
    (read? : Value → Option α) : Option α :=
  match valuesOf members name with
  | [] => some default
  | [value] => read? value
  | _ => none

/-- The record that an object's members describe. -/
def ofMembers? (members : List (String × Value)) : Option TunnelRecord := do
  let tunnelId ← required? members "tunnel_id" Value.text?
  let tunnelName ← optional? members "tunnel_name" "" Value.text?
  let endpoint ← required? members "ipv6_endpoint" readIpv6?
  let pop ← required? members "ipv6_pop" readIpv6?
  let prefixLength ← optional? members "prefix_length" 64 (readNatural? 0xff)
  let popName ← optional? members "pop_name" "" Value.text?
  let ipv4Pop ← optional? members "ipv4_pop" none readIpv4?
  let userState ← optional? members "user_state" .enabled readState?
  let adminState ← optional? members "admin_state" .enabled readState?
  let password ← required? members "password" Value.text?
  let heartbeatInterval ← required? members "heartbeat_interval" (readNatural? 0xffffffff)
  let mtu ← required? members "mtu" (readNatural? 0xffff)
  return {
    tunnelId, tunnelName, endpoint, pop, popName, ipv4Pop, userState, adminState, password
    prefixLength := UInt8.ofNat prefixLength
    heartbeatInterval := UInt32.ofNat heartbeatInterval
    mtu := UInt16.ofNat mtu }

/-- A member whose key is a text. -/
def namedMember? (member : List Nat × Value) : Option (String × Value) :=
  (Json.charactersOf? member.1).map fun name => (String.ofList name, member.2)

/-- The record that a JSON value describes. -/
def ofJson? : Value → Option TunnelRecord
  | .object members => members.mapM namedMember? >>= ofMembers?
  | .array items => if items.length = fieldNames.length then ofMembers? (fieldNames.zip items) else none
  | _ => none

/-- The record that a text describes. -/
def parse? (text : String) : Option TunnelRecord := Value.parse? text >>= ofJson?

/-- The text of a record. -/
def toText (record : TunnelRecord) : String := record.toJson.toText

end TunnelServer.TunnelRecord
