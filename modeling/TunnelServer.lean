import TunnelServer.Address.Ipv4
import TunnelServer.Address.Ipv6
import TunnelServer.Address.Ipv6.Text
import TunnelServer.Address.Socket
import TunnelServer.Bytes
import TunnelServer.Bytes.BigEndian
import TunnelServer.Channel
import TunnelServer.Clock
import TunnelServer.Counters
import TunnelServer.Datagram
import TunnelServer.Directory
import TunnelServer.Json.Parser
import TunnelServer.Json.Token
import TunnelServer.Json.Value
import TunnelServer.Operation
import TunnelServer.Packet.Admission
import TunnelServer.Packet.Encoding
import TunnelServer.Packet.Epoch
import TunnelServer.Packet.Header
import TunnelServer.Packet.Limits
import TunnelServer.Packet.Signature
import TunnelServer.Pipe.Fault
import TunnelServer.Pipe.Frame
import TunnelServer.Pipe.Input
import TunnelServer.Pipe.Output
import TunnelServer.Proofs.Packet.Admission
import TunnelServer.Proofs.Session.Change
import TunnelServer.Registry
import TunnelServer.Rehearsal
import TunnelServer.Server.Command
import TunnelServer.Server.Error
import TunnelServer.Server.Options
import TunnelServer.Server.Serve
import TunnelServer.Server.Settings
import TunnelServer.Session
import TunnelServer.Sha1
import TunnelServer.State
import TunnelServer.State.Heartbeat
import TunnelServer.State.Inbound
import TunnelServer.State.Outbound
import TunnelServer.State.Registration
import TunnelServer.State.Reload
import TunnelServer.Text.Numeral
import TunnelServer.Text.Quoted
import TunnelServer.Text.Unprintable
import TunnelServer.Tunnel.Error
import TunnelServer.Tunnel.Record
import TunnelServer.Tunnel.Record.Json
import TunnelServer.Main
import TunnelServer.Proofs.Run.Move
import TunnelServer.Proofs.Delivery
import TunnelServer.Proofs.Run.Isolation
import TunnelServer.Proofs.Connection
import TunnelServer.Proofs.Splitting
import TunnelServer.Proofs.Routing
import TunnelServer.Proofs.Exchange
import TunnelServer.Proofs.Run.Rest
import TunnelServer.Proofs.Senders
import TunnelServer.Proofs.Run.Registration
import TunnelServer.Proofs.Run.History
import TunnelServer.Proofs.Run.Seats
import TunnelServer.Proofs.Liveness
import TunnelServer.Proofs.Framing
import TunnelServer.Proofs.Pipe.Reading
import TunnelServer.Proofs.LocalStream
import TunnelServer.Proofs.Session.Counting
import TunnelServer.Proofs.Run.Replacement
import TunnelServer.Proofs.Reload
import TunnelServer.Proofs.Heartbeats
import TunnelServer.Proofs.Run.Reading
import TunnelServer.Proofs.Timeouts
import TunnelServer.Proofs.Run.Lag
import TunnelServer.Proofs.Checking
import TunnelServer.Proofs.Run.Packing
import TunnelServer.Proofs.Spacing
import TunnelServer.Proofs.Independence
import TunnelServer.Proofs.Session.Refusal
import TunnelServer.Proofs.Run.Tally
import TunnelServer.Proofs.Refusals
import TunnelServer.Proofs.Run.Waste
import TunnelServer.Proofs.Balance
import TunnelServer.Proofs.Replacement
import TunnelServer.Proofs.Packet.Tampering
import TunnelServer.Proofs.Packet.Conditions
import TunnelServer.Proofs.Readmission
import TunnelServer.Proofs.Pipe.Writing
import TunnelServer.Proofs.Pipe.Transfer
import TunnelServer.Proofs.Pipe.Ending
import TunnelServer.Proofs.Text.Numeral
import TunnelServer.Proofs.Address.Text
import TunnelServer.Proofs.Json.Token
import TunnelServer.Proofs.Json.Value
import TunnelServer.Proofs.Records
import TunnelServer.Proofs.Packet.Placing
import TunnelServer.Proofs.Packet.Rounds
import TunnelServer.Proofs.Serving
