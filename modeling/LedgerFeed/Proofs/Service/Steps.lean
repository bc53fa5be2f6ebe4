import Mathlib.Logic.Relation
import LedgerFeed.Ledger.Hosted
import LedgerFeed.Relay.Loop
import LedgerFeed.Relay.Lifecycle
import LedgerFeed.Rehearsal.Stream
import LedgerFeed.Proofs.Bus.Backlog
import LedgerFeed.Proofs.Gateway.FanOut
import LedgerFeed.Proofs.Ledger.Payloads

namespace LedgerFeed

structure Service where
  host : HookHost
  stats : CommitStats
  bus : Recorded MemoryBus
  relay : Relay
  loop : RelayLoop
  request : LoopRequest
  stream : Stream
  broadcaster : Broadcaster
  sendTimeout : Seconds
  fanOut : Option FanOut
  received : List (ConnectionName × Text)

namespace Service

def commit (service : Service) (block records : Value) : Service :=
  let (final, host, _) := Publisher.notifyCommit MemoryBus.operations.recording service.host block
    records ⟨service.stats, service.bus, []⟩
  { service with host := host, stats := final.stats, bus := final.bus }

def withMemory (service : Service) (bus : MemoryBus) : Service :=
  { service with bus := { service.bus with bus := bus } }

def deliver (service : Service) : Service := service.withMemory service.bus.bus.deliver

def answer (service : Service) (outcome : Outcome) : Service :=
  let reaction := service.loop.react service.relay outcome
  { service with relay := reaction.relay, loop := reaction.loop, request := reaction.request }

def read (service : Service) (serial : Nat) : Option Service :=
  match service.bus.bus.receive serial with
  | (bus, some (.message channel payload)) =>
      some ((service.withMemory bus).answer (.ok (.message channel payload)))
  | (bus, some .ended) =>
      some ({ service.withMemory (bus.discard serial) with stream := .finished }.answer (.ok .ended))
  | (_, none) => none

def next (service : Service) : Option Service :=
  match service.stream with
  | .unopened channels =>
      let started := service.bus.bus.listen channels true
      let service := service.withMemory started.bus
      match started.result with
      | .ok serial => some { service with stream := .subscribed serial }
      | .error fault => some ({ service with stream := .finished }.answer (.error (.fault fault)))
  | .subscribed serial => service.read serial
  | _ => some (service.answer (.ok .ended))

def closeStream (service : Service) : Service :=
  match service.stream with
  | .subscribed serial =>
      { service.withMemory (service.bus.bus.discard serial) with stream := .finished }
  | _ => service

def broadcast (service : Service) (channel : Channel) (body : Json) : Option Service :=
  match service.fanOut with
  | none =>
      match Broadcaster.frame (.ofSlot (.channel channel)) body.toValue with
      | .error fault => some (service.answer (.error (.fault fault)))
      | .ok (channel, frame) =>
          let (broadcaster, targets) := service.broadcaster.snapshot channel
          some { service with broadcaster := broadcaster, fanOut := some (.start frame targets) }
  | some fanOut =>
      if fanOut.isOver then
        some ({ service with fanOut := none }.answer (.ok (.count fanOut.delivered)))
      else
        none

def turn (service : Service) : Option Service :=
  match service.request with
  | .listen channels =>
      some ({ service with stream := .unopened (.texts (channels.map Channel.name)) }.answer .nothing)
  | .take => service.next
  | .broadcast channel body => service.broadcast channel body
  | .closeStream => some (service.closeStream.answer .nothing)
  | .pause _ => some (service.answer .nothing)
  | .finish _ => none

def advance (service : Service) (fanOut : FanOut) (before : List Dispatch)
    (dispatch : Dispatch) (after : List Dispatch) (broadcaster : Broadcaster) (next : Dispatch) :
    Service :=
  { service with
    broadcaster := broadcaster
    fanOut := some { fanOut with dispatches := before ++ next :: after }
    received := service.received ++ dispatch.gained fanOut.frame next }

inductive Internal (client : ConnectionName) : Service → Service → Prop
  | deliver {service : Service} (posted : service.bus.bus.posted ≠ []) :
      Internal client service service.deliver
  | turn {service next : Service} (turns : service.turn = some next) :
      Internal client service next
  | advance {service : Service} {fanOut : FanOut} {before after : List Dispatch}
      {dispatch next : Dispatch} {broadcaster : Broadcaster} (deed : Deed)
      (under : service.fanOut = some fanOut)
      (split : fanOut.dispatches = before ++ dispatch :: after)
      (steady : dispatch.client = client → deed.Steady)
      (step : dispatch.step service.broadcaster service.sendTimeout deed =
        some (broadcaster, next)) :
      Internal client service (service.advance fanOut before dispatch after broadcaster next)

inductive Step (client : ConnectionName) : Service → Service → Prop
  | internal {service next : Service} (internal : Internal client service next) :
      Step client service next
  | commit {service : Service} (block records : Value) (plain : block.PlainBlock) :
      Step client service (service.commit block records)
  | register {service : Service} (other : ConnectionName) (channels : List Channel)
      (differs : other ≠ client) :
      Step client service
        { service with broadcaster := (service.broadcaster.register other channels).1 }
  | unregister {service : Service} (other : ConnectionName) (differs : other ≠ client) :
      Step client service
        { service with broadcaster := (service.broadcaster.unregister other).1 }

def Quiet (client : ConnectionName) (service : Service) : Prop :=
  ∀ next, ¬ Internal client service next

def receivedBy (service : Service) (client : ConnectionName) : List Text :=
  (service.received.filter fun gain => gain.1 = client).map (·.2)

def frames (channels : List Channel) (publications : List Publication) : List Text :=
  (publications.filter fun publication => channels.contains publication.1).map frameText

/-- The relay reads a subscription to both channels on an open bus, nothing has been published, and
the client is registered. -/
structure Ready (client : ConnectionName) (channels : List Channel) (service : Service) : Prop where
  installed : service.host.hooks = [Publisher.hook]
  subscribed : ∃ serial, service.stream = .subscribed serial ∧
    service.bus.bus.Listening serial ∧ service.bus.bus.backlog serial = []
  untaken : service.bus.taken = []
  running : service.relay.running = true
  relays : ∀ channel, channel ∈ service.relay.channels
  reading : service.loop.point = .reading
  asks : service.request = .take
  idle : service.fanOut = none
  registered : service.broadcaster.Registered client channels
  unserved : service.receivedBy client = []

end Service

end LedgerFeed
