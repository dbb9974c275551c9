import MediaSocket.Association.Change
import MediaSocket.CommandLine.Run
import MediaSocket.Dispatcher.Lifecycle
import MediaSocket.Dispatcher.Pipeline
import MediaSocket.Dispatcher.Request
import MediaSocket.Files
import MediaSocket.Main
import MediaSocket.Relay.Interleaving
import MediaSocket.Relay.Request
import MediaSocket.Stun.Canonical
import MediaSocket.Stun.Grammar
import MediaSocket.Proofs.Stun.Fields
import MediaSocket.Proofs.Stun.MessageType
import MediaSocket.Proofs.Stun.Header
import MediaSocket.Proofs.Stun.Indexed
import MediaSocket.Proofs.Stun.RoundTrip
import MediaSocket.Proofs.Stun.Signature
import MediaSocket.Proofs.Stun.Responder
import MediaSocket.Proofs.Text.Utf8
import MediaSocket.Proofs.Stun.Reply
import MediaSocket.Dispatcher.Exchange
import MediaSocket.Proofs.Dispatcher.Exchange
import MediaSocket.Association.History
import MediaSocket.Proofs.Association.History
import MediaSocket.Proofs.Relay.History
import MediaSocket.Proofs.Relay.Stop
import MediaSocket.Proofs.Dispatcher.Send
import MediaSocket.Dispatcher.Routing
import MediaSocket.Proofs.Srtp.FanOut
import MediaSocket.Proofs.Dispatcher.Routing
import MediaSocket.Proofs.Relay.Sessions
import MediaSocket.Gateway.Conversation
import MediaSocket.Proofs.Gateway.Attribution
import MediaSocket.Proofs.Dispatcher.Phases
import MediaSocket.Proofs.Dispatcher.Pipeline
import MediaSocket.Proofs.Dispatcher.Stop
import MediaSocket.Proofs.Text.Numeral
import MediaSocket.Proofs.Toml.Quote
import MediaSocket.Proofs.Toml.Scalar
import MediaSocket.Proofs.Toml.Document
import MediaSocket.Proofs.Address.Text
import MediaSocket.Proofs.Config.Reload
import MediaSocket.Proofs.Stun.Integrity
import MediaSocket.Proofs.Stun.Padding
import MediaSocket.Proofs.Checksum
import MediaSocket.Proofs.Stun.Fingerprint
import MediaSocket.Proofs.Relay.Keys
import MediaSocket.Proofs.Stun.Resigning
import MediaSocket.Proofs.Stun.MappedAddress
import MediaSocket.Proofs.Association.Derivation
import MediaSocket.Proofs.Config.Validation
import MediaSocket.Proofs.Dispatcher.Startup
import MediaSocket.Proofs.Association.Views
import MediaSocket.Proofs.Config.Duration
import MediaSocket.Proofs.Stun.ErrorCode
import MediaSocket.Proofs.Text.Hex
import MediaSocket.Proofs.Association.Text
