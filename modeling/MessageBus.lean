import MessageBus.Text.Basic
import MessageBus.Text.Utf8
import MessageBus.Text.Printable
import MessageBus.Text.Quoted
import MessageBus.Decimal.Binary64
import MessageBus.Decimal.Shortest
import MessageBus.Decimal.Format
import MessageBus.Value.Basic
import MessageBus.Value.Equality
import MessageBus.Value.Numeric
import MessageBus.Signature.Basic
import MessageBus.Signature.Parse
import MessageBus.Signature.Check
import MessageBus.Json.Basic
import MessageBus.Json.Reader
import MessageBus.Message.Basic
import MessageBus.Message.Builder
import MessageBus.Wire.Bytes
import MessageBus.Wire.Writer
import MessageBus.Wire.Reader
import MessageBus.Wire.Codec
import MessageBus.Wire.Buffer
import MessageBus.Xml.NameCharacters
import MessageBus.Xml.Lexical
import MessageBus.Xml.Token
import MessageBus.Xml.Declarations
import MessageBus.Xml.Namespace
import MessageBus.Xml.Document
import MessageBus.Introspection.Data
import MessageBus.Bus.Error
import MessageBus.Config.Settings
import MessageBus.Config.Load
import MessageBus.Transport.Address
import MessageBus.Transport.Auth
import MessageBus.Bus.Registry
import MessageBus.Bus.Connection
import MessageBus.Bus.Proxy
import MessageBus.Bus.Session
import MessageBus.Peer.Scripted
import MessageBus.Peer.Daemon
import MessageBus.Peer.Host
import MessageBus.Proofs.Octets
import MessageBus.Proofs.Utf8
import MessageBus.Proofs.Signature
import MessageBus.Proofs.Check
import MessageBus.Proofs.Wire.Normal
import MessageBus.Proofs.Wire.Basic
import MessageBus.Proofs.Wire.Values
import MessageBus.Proofs.Wire.Header
import MessageBus.Proofs.Wire.RoundTrip
import MessageBus.Proofs.Replies.Registry
import MessageBus.Proofs.Replies.Correlation
import MessageBus.Proofs.Wire.Chunking
import MessageBus.Proofs.Wire.Settle
import MessageBus.Proofs.Wire.Failures
import MessageBus.Proofs.Wire.Decoded
import MessageBus.Proofs.Wire.Remarshal
import MessageBus.Proofs.Replies.Dispatcher
import MessageBus.Proofs.Wire.BufferRead
import MessageBus.Proofs.Signature.Grammar
import MessageBus.Proofs.Replies.BoundedWait
import MessageBus.Proofs.Handshake.LineReading
import MessageBus.Proofs.Handshake.Protocol
import MessageBus.Proofs.Wire.Headroom
import MessageBus.Proofs.Replies.Sending
import MessageBus.Proofs.Proxy.CallGate
import MessageBus.Proofs.Signature.ObjectPath
import MessageBus.Proofs.Config.Replace
import MessageBus.Proofs.Introspection.Parse
import MessageBus.Proofs.Transport.Address
import MessageBus.Proofs.Replies.Serials
import MessageBus.Proofs.Wire.Progress
