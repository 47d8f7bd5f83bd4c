import ProxyLink.LogFilter
import ProxyLink.Main
import ProxyLink.Proofs.Bag.Named
import ProxyLink.Proofs.Bridge.Answering
import ProxyLink.Proofs.Bridge.Arrival
import ProxyLink.Proofs.Bridge.Balance
import ProxyLink.Proofs.Bridge.Relay
import ProxyLink.Proofs.Bridge.Retry
import ProxyLink.Proofs.Bridge.Sending
import ProxyLink.Proofs.Command.Loopback
import ProxyLink.Proofs.Config.Choice
import ProxyLink.Proofs.Config.Lookup
import ProxyLink.Proofs.Conversation.Correlation
import ProxyLink.Proofs.Frame.Absent
import ProxyLink.Proofs.Frame.Canonical
import ProxyLink.Proofs.Frame.Cut
import ProxyLink.Proofs.Frame.Delimited
import ProxyLink.Proofs.Json.Automaton
import ProxyLink.Proofs.Json.Grammar
import ProxyLink.Proofs.Json.Reading
import ProxyLink.Proofs.Link.Traffic
import ProxyLink.Proofs.Message.Copy
import ProxyLink.Proofs.Message.Fields
import ProxyLink.Proofs.PeerError.Layout
import ProxyLink.Proofs.Pending.Order
import ProxyLink.Proofs.Pending.Resolution
import ProxyLink.Proofs.Property.Bytes
import ProxyLink.Proofs.Property.Number
