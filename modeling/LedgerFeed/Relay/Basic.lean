import LedgerFeed.Wire.Payload
import LedgerFeed.Wire.Filter
import LedgerFeed.Number.Seconds

namespace LedgerFeed

structure Relay where
  channels : List Channel
  reconnectDelay : Seconds
  maxReconnectDelay : Seconds
  running : Bool
  task : Option Nat
  relayed : Nat
  dropped : Nat
  reconnects : Nat

namespace Relay

def component : String := "relay_subscriber"

def log (level : Level) (event : String) (fields : List (String × Value)) : LogEntry :=
  entry component level event fields

def idle (channels : List Channel) (reconnectDelay maxReconnectDelay : Seconds) : Relay :=
  ⟨channels, reconnectDelay, maxReconnectDelay, false, none, 0, 0, 0⟩

def defaultDelay : Seconds := .float (Binary64.ofInt 2)

def defaultMaxDelay : Seconds := .float (Binary64.ofInt 60)

def selectChannels (channels : Value) : Except Fault (List Channel) :=
  if channels.isTrue then do
    (← channels.items).mapM Value.exactChannel
  else
    .ok Channel.all

def channelNames (relay : Relay) : Value := .texts (relay.channels.map Channel.name)

inductive Examined
  | dropped (relay : Relay) (entry : LogEntry)
  | accepted (channel : Channel) (body : Json)
  | failed (fault : Fault)

def drop (relay : Relay) (entry : LogEntry) : Examined :=
  .dropped { relay with dropped := relay.dropped + 1 } entry

def unknownChannel (channel : Value) : LogEntry :=
  log .warning "relay_unknown_channel" [("channel", channel)]

def malformedPayload (channel : String) (fault : Fault) : LogEntry :=
  log .warning "relay_malformed_payload"
    [("channel", .text channel), ("error", .text fault.message)]

def broadcastFailed (channel : Channel) (fault : Fault) : LogEntry :=
  log .error "relay_broadcast_failed"
    [("channel", .text channel.name), ("error", .text fault.message),
     ("error_type", .text fault.kind)]

def resolve (channel : Value) : Except Fault (Option Channel) :=
  match channel.parseChannel with
  | .ok channel => .ok (some channel)
  | .error fault => if fault.isWrongValue then .ok none else .error fault

def examine (relay : Relay) (channel raw : Value) : Examined :=
  match resolve channel with
  | .error fault => .failed fault
  | .ok none => relay.drop (unknownChannel channel)
  | .ok (some resolved) =>
      if relay.channels.contains resolved then
        match parsePayload resolved.name raw with
        | .ok body => .accepted resolved body
        | .error (.payload name error) => relay.drop (malformedPayload name (.payload name error))
        | .error fault => .failed fault
      else
        relay.drop (unknownChannel channel)

def settle (relay : Relay) (channel : Channel) (failure : Option Fault) : Relay × Bool × Logs :=
  match failure with
  | none => ({ relay with relayed := relay.relayed + 1 }, true, [])
  | some fault =>
      ({ relay with dropped := relay.dropped + 1 }, false, [broadcastFailed channel fault])

end Relay

end LedgerFeed
