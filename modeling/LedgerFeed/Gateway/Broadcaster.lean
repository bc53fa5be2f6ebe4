import LedgerFeed.Wire.Filter
import LedgerFeed.Wire.Message
import LedgerFeed.Number.Seconds

namespace LedgerFeed

abbrev ConnectionName := Nat

structure Broadcaster where
  /-- Each registered connection once, in the order of first registration, with what it receives. -/
  connections : List (ConnectionName × List Channel)
  connectedTotal : Nat
  failed : Nat
  messagesSent : Nat
  broadcasts : Nat

namespace Broadcaster

def component : String := "websocket_broadcaster"

def empty : Broadcaster := ⟨[], 0, 0, 0, 0⟩

def log (level : Level) (event : String) (fields : List (String × Value)) : LogEntry :=
  entry component level event fields

def connectionCount (broadcaster : Broadcaster) : Nat := broadcaster.connections.length

def isRegistered (broadcaster : Broadcaster) (connection : ConnectionName) : Bool :=
  (broadcaster.connections.lookup connection).isSome

/-- Adds a connection at the end; one that is there keeps its place and changes its channels. -/
def insert (connections : List (ConnectionName × List Channel)) (connection : ConnectionName)
    (channels : List Channel) : List (ConnectionName × List Channel) :=
  match connections with
  | [] => [(connection, channels)]
  | (other, old) :: rest =>
      if other = connection then (other, channels) :: rest
      else (other, old) :: insert rest connection channels

def register (broadcaster : Broadcaster) (connection : ConnectionName) (channels : List Channel) :
    Broadcaster × Nat × Logs :=
  let broadcaster :=
    { broadcaster with
      connections := insert broadcaster.connections connection channels
      connectedTotal := broadcaster.connectedTotal + 1 }
  (broadcaster, broadcaster.connectionCount,
    [log .debug "connection_registered"
      [("channels", .texts (channels.map Channel.name)),
       ("connections", .ofNat broadcaster.connectionCount)]])

def unregister (broadcaster : Broadcaster) (connection : ConnectionName) : Broadcaster × Bool :=
  ({ broadcaster with
      connections := broadcaster.connections.filter fun (other, _) => other ≠ connection },
    broadcaster.isRegistered connection)

inductive SendFailure
  | expired (deadline : Seconds)
  | raised (fault : Fault)

def SendFailure.message : SendFailure → Text
  | .expired deadline => s!"Send timed out after {deadline.shown}s"
  | .raised fault => s!"{fault.kind}: " ++ fault.message

def SendFailure.ofFault (deadline : Seconds) (fault : Fault) : SendFailure :=
  if fault.isTimeout then .expired deadline else .raised fault

/-- How far the delivery of one frame to one connection has come. -/
inductive Delivery
  | checking
  | sending
  | closing
  | over (delivered : Bool)
  deriving DecidableEq, Repr

def drop (broadcaster : Broadcaster) (connection : ConnectionName) (reason : String) :
    Broadcaster × Bool × Logs :=
  match broadcaster.unregister connection with
  | (broadcaster, false) => (broadcaster, false, [])
  | (broadcaster, true) =>
      ({ broadcaster with failed := broadcaster.failed + 1 }, true,
        [log .info "connection_dropped"
          [("reason", .text reason), ("connections", .ofNat broadcaster.connectionCount)]])

def check (broadcaster : Broadcaster) (connection : ConnectionName) (isOpen : Bool) :
    Broadcaster × Delivery × Logs :=
  if isOpen then
    (broadcaster, .sending, [])
  else
    let (broadcaster, _, logs) := broadcaster.drop connection "closed"
    (broadcaster, .over false, logs)

/-- The part after sending: a failed connection is dropped, and closed by the one who dropped it. -/
def conclude (broadcaster : Broadcaster) (connection : ConnectionName)
    (failure : Option SendFailure) : Broadcaster × Delivery × Logs :=
  match failure with
  | none => ({ broadcaster with messagesSent := broadcaster.messagesSent + 1 }, .over true, [])
  | some failure =>
      let failed := log .debug "websocket_send_failed" [("error", .text failure.message)]
      let (broadcaster, removed, logs) := broadcaster.drop connection "send_failed"
      (broadcaster, if removed then .closing else .over false, failed :: logs)

def closeFailed (fault : Fault) : LogEntry :=
  log .debug "connection_close_failed" [("error", .text fault.message)]

inductive Conduct
  | seen (isOpen : Bool)
  | sent
  | raised (fault : Fault)
  | closed (failure : Option Fault)

/-- What follows from what a client does, if the delivery waits for that. Nothing does from a fault
that no handler catches: it goes on. -/
def proceed (broadcaster : Broadcaster) (connection : ConnectionName) (deadline : Seconds) :
    Delivery → Conduct → Option (Broadcaster × Delivery × Logs)
  | .checking, .seen isOpen => some (broadcaster.check connection isOpen)
  | .sending, .sent => some (broadcaster.conclude connection none)
  | .sending, .raised fault =>
      if fault.isOrdinary then
        some (broadcaster.conclude connection (some (.ofFault deadline fault)))
      else
        none
  | .closing, .closed none => some (broadcaster, .over false, [])
  | .closing, .closed (some fault) =>
      if fault.isOrdinary then some (broadcaster, .over false, [closeFailed fault]) else none
  | _, _ => none

def frame (channel data : Value) : Except Fault (Channel × Text) := do
  let channel ← channel.toChannel
  match (Envelope.mk channel data).text with
  | .ok text => .ok (channel, text)
  | .error error => .error (.form error)

def snapshot (broadcaster : Broadcaster) (channel : Channel) : Broadcaster × List ConnectionName :=
  ({ broadcaster with broadcasts := broadcaster.broadcasts + 1 },
    (broadcaster.connections.filter fun (_, channels) => channels.contains channel).map (·.1))

def takeAll (broadcaster : Broadcaster) : Broadcaster × List ConnectionName :=
  ({ broadcaster with connections := [] }, broadcaster.connections.map (·.1))

def allClosed (count : Nat) : Logs :=
  if count = 0 then [] else [log .info "connections_closed" [("count", .ofNat count)]]

end Broadcaster

end LedgerFeed
