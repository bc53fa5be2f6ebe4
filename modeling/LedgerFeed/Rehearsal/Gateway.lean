import LedgerFeed.Rehearsal.Programs
import LedgerFeed.Gateway.Http
import LedgerFeed.Gateway.Launch
import LedgerFeed.Gateway.Query
import LedgerFeed.Logging.Setup
import LedgerFeed.Settings.Basic

namespace LedgerFeed.Rehearsal
open LedgerFeed

structure Gateway where
  rig : Rig
  settings : Settings
  setup : LogSetup
  hasRelay : Bool
  ownsBus : Bool
  hasBus : Bool

namespace Gateway

def busComponent : String := MemoryBus.component

def make (settings : Settings) (busGiven broadcasterGiven : Bool) : Gateway :=
  let timeout := if broadcasterGiven then Seconds.whole 5 else .float settings.sendTimeout
  { rig := .start { World.start with
      sendTimeout := timeout
      muted := [Broadcaster.component, Relay.component, Session.component, busComponent] }
    settings := settings
    setup := .initial
    hasRelay := false
    ownsBus := !busGiven
    hasBus := busGiven }

def unmute (rig : Rig) (component : String) : Rig :=
  rig.update fun world => { world with muted := world.muted.filter (· ≠ component) }

def mute (rig : Rig) (component : String) : Rig :=
  rig.update fun world => { world with muted := component :: world.muted.filter (· ≠ component) }

def withBus (gateway : Gateway) : Gateway :=
  if gateway.hasBus && (!gateway.ownsBus || !gateway.rig.state.bus.closed) then
    gateway
  else
    let rig := gateway.rig.update fun world =>
      { world with bus := { MemoryBus.empty with started := world.bus.started } }
    { gateway with
      hasBus := true
      rig := if gateway.setup.isDone then unmute rig busComponent else mute rig busComponent }

def startup (gateway : Gateway) : Gateway :=
  let settings := gateway.settings
  let setup := if gateway.setup.isDone then gateway.setup
    else gateway.setup.set settings.logLevel.severity settings.logJson
  let rig := unmute (unmute gateway.rig Session.component) Relay.component
  let rig := rig.say [settings.busEntry (some Session.component)]
  let gateway := withBus { gateway with rig := rig, setup := setup }
  let rig := (gateway.rig.setRelay (Launch.relay settings) []).startRelay
  let ready := Session.log .info "gateway_startup_complete" [("status", .text "READY")]
  { gateway with rig := rig.say [ready], hasRelay := true }

def shutdown (gateway : Gateway) : Gateway :=
  { gateway with rig := (gateway.rig.complete (.shutdown gateway.ownsBus)).1 }

def publish (gateway : Gateway) (channel payload : Value) : Gateway × Except Fault Nat :=
  let gateway := gateway.withBus
  let (rig, result) := gateway.rig.publish channel payload
  ({ gateway with rig := rig }, result)

def status (gateway : Gateway) : Http.Status :=
  ⟨if gateway.hasRelay then some (gateway.rig.state.relay, gateway.rig.relayRuns) else none,
    gateway.rig.state.broadcaster⟩

def connect (gateway : Gateway) (name query : String) : Gateway :=
  let rig := gateway.rig
  let client := rig.state.clients.length
  let (rig, task) := rig.begin (.visit rig.state.visits.length .starting)
  let visit : Visit := ⟨name, client, Query.find? query "type", task, gateway.setup.isDone⟩
  { gateway with rig := rig.update fun world =>
      { world with
        clients := world.clients ++ [.socket .fresh]
        visits := world.visits ++ [visit] } }

def visit? (gateway : Gateway) (name : String) : Option Visit :=
  gateway.rig.state.visits.reverse.find? fun visit => visit.name = name

def arrive (gateway : Gateway) (name : String) (event : SocketEvent) : Gateway :=
  match gateway.visit? name with
  | some visit => { gateway with rig := gateway.rig.arrive visit.client event }
  | none => gateway

def disturb (gateway : Gateway) (name : String) (change : Socket → Socket) : Gateway :=
  match gateway.visit? name with
  | none => gateway
  | some visit =>
      match gateway.rig.state.socket? visit.client with
      | some socket =>
          { gateway with rig := gateway.rig.update fun world =>
              world.setSocket visit.client (change socket) }
      | none => gateway

def hasEnded (gateway : Gateway) (visit : Visit) : Bool :=
  gateway.rig.schedule.isTaskDone visit.task

def lines (gateway : Gateway) (time : String) : Except Fault (List Text) :=
  gateway.setup.outlet.lines time gateway.rig.state.logs

end Gateway

end LedgerFeed.Rehearsal
