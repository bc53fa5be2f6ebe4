import LedgerFeed.Gateway.Session
import LedgerFeed.Relay.Lifecycle
import LedgerFeed.Rehearsal.Client
import LedgerFeed.Rehearsal.Stream
import LedgerFeed.Schedule.Machine

/-!
# The world of a rehearsal

A rehearsal runs the components against scripted collaborators on a clock of its own. The world is
all that the tasks share: the bus, the broadcaster with its clients, the relay with what it listens
to, and the record of what has happened.
-/

namespace LedgerFeed.Rehearsal
open LedgerFeed

inductive Client
  | scripted (client : ScriptedClient)
  | socket (socket : Socket)

structure Listener where
  name : String
  stream : Nat
  wanted : Option Nat
  task : Nat
  items : List (Value × Value)

structure Visit where
  name : String
  client : ConnectionName
  filter : Option String
  task : Nat
  isHeard : Bool

inductive Source
  | bus
  | script (sessions : List ScriptedSession)

inductive Audience
  | clients
  | script (outcomes : List (Option Raised))

structure World where
  bus : MemoryBus
  waiting : List (Nat × Nat)
  streams : List Stream
  broadcaster : Broadcaster
  sendTimeout : Seconds
  clients : List Client
  relay : Relay
  source : Source
  audience : Audience
  listeners : List Listener
  visits : List Visit
  listens : List (Rat × List Channel)
  streamsClosed : Nat
  broadcasts : List (Channel × Json)
  logs : Logs
  muted : List String

/-- The frames of a rehearsal. -/
inductive Act
  | reply (outcome : Outcome)
  | loop (loop : RelayLoop) (stream : Nat)
  | stopRelay
  | relayStopped
  | handle (channel raw : Value)
  | handled (channel : Channel)
  | broadcast (channel data : Value)
  | countDelivered
  | deliver (client : ConnectionName) (frame : Text) (point : Broadcaster.Delivery)
  | closeAll
  | closingAll (rest : List ConnectionName) (count : Nat)
  | send (client : ConnectionName) (frame : Text)
  | sendAct (client : ConnectionName) (frame : Text)
  | sendEnd (client : ConnectionName) (frame : Text)
  | close (client : ConnectionName)
  | closeEnd (client : ConnectionName)
  | perform (step : ClientStep)
  | next (stream : Nat)
  | woken (stream : Nat)
  | waited (stream : Nat) (onCancel : OnCancel)
  | closeStream (stream : Nat)
  | listen (listener : Nat)
  | listening (listener : Nat)
  | visit (visit : Nat) (point : SessionPoint)
  | receive (client : ConnectionName)
  | accept (client : ConnectionName)
  | shutdown (ownsBus : Bool)
  | relayGone (ownsBus : Bool)
  | clientsGone (ownsBus : Bool)

abbrev Rig := Machine Act World

abbrev Turn := Rig × Move Act

namespace World

def start : World where
  bus := .empty
  waiting := []
  streams := []
  broadcaster := .empty
  sendTimeout := .whole 1
  clients := []
  relay := .idle Channel.all Relay.defaultDelay Relay.defaultMaxDelay
  source := .bus
  audience := .clients
  listeners := []
  visits := []
  listens := []
  streamsClosed := 0
  broadcasts := []
  logs := []
  muted := []

def say (world : World) (logs : Logs) : World :=
  { world with logs := world.logs ++ logs.filter fun entry =>
      match entry.component with
      | some component => !world.muted.contains component
      | none => true }

def setStream (world : World) (stream : Nat) (contents : Stream) : World :=
  { world with streams := world.streams.set stream contents }

def modifyClient (world : World) (client : ConnectionName)
    (change : ScriptedClient → ScriptedClient) : World :=
  { world with clients := world.clients.modify client fun
      | .scripted scripted => .scripted (change scripted)
      | other => other }

def setSocket (world : World) (client : ConnectionName) (socket : Socket) : World :=
  { world with clients := world.clients.set client (.socket socket) }

def socket? (world : World) (client : ConnectionName) : Option Socket :=
  match world.clients[client]? with
  | some (.socket socket) => some socket
  | _ => none

def scripted? (world : World) (client : ConnectionName) : Option ScriptedClient :=
  match world.clients[client]? with
  | some (.scripted scripted) => some scripted
  | _ => none

def isOpen (world : World) (client : ConnectionName) : Bool :=
  match world.clients[client]? with
  | some (.scripted scripted) => scripted.isOpen
  | some (.socket socket) => socket.isOpen
  | none => false

def countListener (world : World) (listener : Nat) (channel payload : Value) : World :=
  { world with listeners := world.listeners.modify listener fun l =>
      { l with items := l.items ++ [(channel, payload)], wanted := l.wanted.map (· - 1) } }

end World

namespace Rig

def start (world : World) : Rig := ⟨.empty, world⟩

def update (rig : Rig) (change : World → World) : Rig := { rig with state := change rig.state }

def say (rig : Rig) (logs : Logs) : Rig := rig.update (·.say logs)

def withSchedule (rig : Rig) (schedule : Schedule (Frame Act)) : Rig :=
  { rig with schedule := schedule }

/-! ## Ends of turns -/

def ok (rig : Rig) (reply : Reply) : Turn := (rig, .finish (.ok reply))

def fault (rig : Rig) (fault : Fault) : Turn := (rig, .finish (.error (.fault fault)))

def finish (rig : Rig) (outcome : Outcome) : Turn := (rig, .finish outcome)

def call (rig : Rig) (frames : List Act) : Turn := (rig, .call (frames.map .app))

def pause (rig : Rig) (length : Rat) (act : Act) : Turn :=
  (rig, .call [.pause (some length) (0 < length), .app act])

def hang (rig : Rig) : Turn :=
  let (schedule, future) := rig.schedule.newFuture .plain
  (rig.withSchedule schedule, .wait .awaited future)

/-! ## The bus -/

def setBus (rig : Rig) (bus : MemoryBus) : Rig :=
  let added := bus.posted.length - rig.state.bus.posted.length
  let rig := rig.update fun world => { world with bus := bus }
  rig.withSchedule
    ((List.range added).foldl (fun schedule _ => schedule.enqueue .post) rig.schedule)

def publish (rig : Rig) (channel payload : Value) : Rig × Except Fault Nat :=
  let (bus, result) := rig.state.bus.publish channel payload
  (rig.setBus bus, result)

def closeBus (rig : Rig) : Rig :=
  let (bus, logs) := rig.state.bus.close
  (rig.setBus bus).say logs

def post (rig : Rig) : Rig :=
  let serial? := rig.state.bus.posted.head?.map (·.1)
  let rig := rig.update fun world => { world with bus := world.bus.deliver }
  match serial?.bind fun serial => rig.state.waiting.lookup serial with
  | none => rig
  | some future =>
      let rig := rig.update fun world =>
        { world with waiting := world.waiting.filter fun (_, other) => other ≠ future }
      rig.withSchedule (rig.schedule.complete future .nothing)

end Rig

end LedgerFeed.Rehearsal
