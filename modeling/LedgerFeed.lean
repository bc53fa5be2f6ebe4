import LedgerFeed.Bus.Registry
import LedgerFeed.Ledger.Notation
import LedgerFeed.Main
import LedgerFeed.Rehearsal.Gateway
import LedgerFeed.Rehearsal.Pipeline
import LedgerFeed.Rehearsal.ScriptedBus
import LedgerFeed.Rehearsal.ScriptedHooks
import LedgerFeed.Settings.Current
import LedgerFeed.Proofs.Bus.Backlog
import LedgerFeed.Proofs.Bus.Endpoint
import LedgerFeed.Proofs.Bus.Listeners
import LedgerFeed.Proofs.Bus.Shared
import LedgerFeed.Proofs.Bus.Subscribers
import LedgerFeed.Proofs.Bus.Subscription
import LedgerFeed.Proofs.Characters.Cut
import LedgerFeed.Proofs.Characters.Hex
import LedgerFeed.Proofs.Characters.Letters
import LedgerFeed.Proofs.Characters.Percent
import LedgerFeed.Proofs.Except
import LedgerFeed.Proofs.Gateway.Accounts
import LedgerFeed.Proofs.Gateway.FanOut
import LedgerFeed.Proofs.Gateway.Manner
import LedgerFeed.Proofs.Gateway.Membership
import LedgerFeed.Proofs.Gateway.Removal
import LedgerFeed.Proofs.Gateway.Round
import LedgerFeed.Proofs.Gateway.Sessions
import LedgerFeed.Proofs.Gateway.Stall
import LedgerFeed.Proofs.Gateway.Traffic
import LedgerFeed.Proofs.Gateway.Turns
import LedgerFeed.Proofs.Json.Complete
import LedgerFeed.Proofs.Json.Grammar
import LedgerFeed.Proofs.Json.LongNumbers
import LedgerFeed.Proofs.Json.Meaning
import LedgerFeed.Proofs.Json.Octets
import LedgerFeed.Proofs.Json.RoundTrip
import LedgerFeed.Proofs.Json.Sound
import LedgerFeed.Proofs.Json.Standard
import LedgerFeed.Proofs.Json.Tidy
import LedgerFeed.Proofs.Json.Tokens
import LedgerFeed.Proofs.Ledger.Blocks
import LedgerFeed.Proofs.Ledger.Denotation
import LedgerFeed.Proofs.Ledger.Isolation
import LedgerFeed.Proofs.Ledger.Notifications
import LedgerFeed.Proofs.Ledger.Oversized
import LedgerFeed.Proofs.Ledger.Payloads
import LedgerFeed.Proofs.Ledger.Recovery
import LedgerFeed.Proofs.Ledger.Shutdown
import LedgerFeed.Proofs.Ledger.Totals
import LedgerFeed.Proofs.Ledger.Trace
import LedgerFeed.Proofs.Ledger.Unfolding
import LedgerFeed.Proofs.Number.Rounding
import LedgerFeed.Proofs.Number.Shortest
import LedgerFeed.Proofs.Relay.Attempts
import LedgerFeed.Proofs.Relay.Backoff
import LedgerFeed.Proofs.Relay.Ceiling
import LedgerFeed.Proofs.Relay.Isolation
import LedgerFeed.Proofs.Relay.Lifecycle
import LedgerFeed.Proofs.Relay.Reconnects
import LedgerFeed.Proofs.Schedule.Tasks
import LedgerFeed.Proofs.Service.Delivery
import LedgerFeed.Proofs.Service.Steps
import LedgerFeed.Proofs.Service.Turns
import LedgerFeed.Proofs.Settings.Accepted
import LedgerFeed.Proofs.Value.Floats
import LedgerFeed.Proofs.Value.Formed
import LedgerFeed.Proofs.Value.Placed
import LedgerFeed.Proofs.Value.Plain
import LedgerFeed.Proofs.Value.Reading
import LedgerFeed.Proofs.Value.Search
import LedgerFeed.Proofs.Value.Words
import LedgerFeed.Proofs.Wire.Accepted
import LedgerFeed.Proofs.Wire.Frames
import LedgerFeed.Proofs.Wire.Messages
import LedgerFeed.Proofs.Wire.Selection
import LedgerFeed.Proofs.Wire.Standard
