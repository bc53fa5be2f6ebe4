import LedgerFeed.Relay.Basic
import LedgerFeed.Schedule.Basic

/-!
# The relay's loop

While it runs, the relay keeps one subscription open: it listens, handles what comes in order,
closes the stream when that ends, pauses and listens again. `react` is the whole loop as a machine.
It is told the outcome of what it asked for and says what it wants next, so it can be run against
any bus, broadcaster and clock. The pause after a failure doubles with each failure in a row up to a
ceiling, and a clean end of the stream resets it.
-/

namespace LedgerFeed

inductive StreamEnding
  | ended
  | failed (fault : Fault)
  | cancelled

inductive LoopPoint
  | opening
  | opened
  | reading
  | relaying (channel : Channel)
  | closing (ending : StreamEnding)
  | pausing (next : Seconds)

structure RelayLoop where
  delay : Seconds
  point : LoopPoint

inductive LoopRequest
  | listen (channels : List Channel)
  | take
  | broadcast (channel : Channel) (body : Json)
  | closeStream
  | pause (length : Seconds)
  | finish (outcome : Outcome)

/-- A reaction of the loop: the relay and the loop after it, what it logs, and what it wants. -/
structure Reaction where
  relay : Relay
  loop : RelayLoop
  logs : Logs
  request : LoopRequest

namespace RelayLoop

def start (relay : Relay) : RelayLoop := ⟨relay.reconnectDelay, .opening⟩

def StreamEnding.ofStop : Stop → StreamEnding
  | .fault fault => .failed fault
  | .cancelled => .cancelled

def leave (relay : Relay) (loop : RelayLoop) (outcome : Outcome) (logs : Logs) : Reaction :=
  ⟨relay, loop, logs, .finish outcome⟩

def read (relay : Relay) (loop : RelayLoop) (logs : Logs) : Reaction :=
  ⟨relay, { loop with point := .reading }, logs, .take⟩

def close (relay : Relay) (loop : RelayLoop) (ending : StreamEnding) (logs : Logs) : Reaction :=
  ⟨relay, { loop with point := .closing ending }, logs, .closeStream⟩

def openStream (relay : Relay) (loop : RelayLoop) : Reaction :=
  if relay.running then
    ⟨relay, { loop with point := .opened }, [], .listen relay.channels⟩
  else
    leave relay loop .nothing []

def streamError (fault : Fault) (delay : Seconds) : LogEntry :=
  Relay.log .warning "relay_stream_error"
    [("error", .text fault.message), ("error_type", .text fault.kind),
     ("bus_unavailable", .ofBool fault.isBusUnavailable), ("reconnect_delay", delay.toValue)]

def fail (relay : Relay) (loop : RelayLoop) (fault : Fault) : Reaction :=
  if fault.isOrdinary then
    if relay.running then
      ⟨{ relay with reconnects := relay.reconnects + 1 },
        { loop with point := .pausing (loop.delay.double.least relay.maxReconnectDelay) },
        [streamError fault loop.delay], .pause loop.delay⟩
    else
      leave relay loop .nothing []
  else
    leave relay loop (.error (.fault fault)) []

def rest (relay : Relay) (loop : RelayLoop) : Reaction :=
  let loop := { loop with delay := relay.reconnectDelay }
  if relay.running then
    ⟨relay, { loop with point := .pausing relay.reconnectDelay },
      [Relay.log .warning "relay_stream_ended" []], .pause relay.reconnectDelay⟩
  else
    leave relay loop .nothing []

def handle (relay : Relay) (loop : RelayLoop) (channel raw : Value) : Reaction :=
  if relay.running then
    match relay.examine channel raw with
    | .dropped relay entry => read relay loop [entry]
    | .accepted channel body =>
        ⟨relay, { loop with point := .relaying channel }, [], .broadcast channel body⟩
    | .failed fault => close relay loop (.failed fault) []
  else
    close relay loop .ended []

def relayed (relay : Relay) (loop : RelayLoop) (channel : Channel) (outcome : Outcome) : Reaction :=
  match outcome with
  | .ok _ =>
      let (relay, _, logs) := relay.settle channel none
      read relay loop logs
  | .error .cancelled => close relay loop .cancelled []
  | .error (.fault fault) =>
      if fault.isOrdinary then
        let (relay, _, logs) := relay.settle channel (some fault)
        read relay loop logs
      else
        close relay loop (.failed fault) []

def closed (relay : Relay) (loop : RelayLoop) : StreamEnding → Reaction
  | .ended => rest relay loop
  | .failed fault => fail relay loop fault
  | .cancelled => leave relay loop (.error .cancelled) []

/-- The loop's answer to the outcome of its last request. -/
def react (relay : Relay) (loop : RelayLoop) (outcome : Outcome) : Reaction :=
  match loop.point, outcome with
  | .opening, .ok _ => openStream relay loop
  | .opened, .ok _ => read relay loop []
  | .opened, .error (.fault fault) => fail relay loop fault
  | .reading, .ok (.message channel raw) => handle relay loop channel raw
  | .reading, .ok _ => close relay loop .ended []
  | .reading, .error stop => close relay loop (StreamEnding.ofStop stop) []
  | .relaying channel, outcome => relayed relay loop channel outcome
  | .closing ending, .ok _ => closed relay loop ending
  | .closing _, .error (.fault fault) => fail relay loop fault
  | .pausing next, .ok _ => openStream relay { loop with delay := next }
  | _, .error stop => leave relay loop (.error stop) []

end RelayLoop

end LedgerFeed
