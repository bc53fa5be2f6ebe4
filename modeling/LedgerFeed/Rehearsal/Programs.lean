import LedgerFeed.Rehearsal.World

namespace LedgerFeed.Rehearsal.Rig
open LedgerFeed

/-! ## Streams -/

def readBus (rig : Rig) (stream serial : Nat) : Turn :=
  match rig.state.bus.receive serial with
  | (bus, some (.message channel payload)) =>
      (rig.update fun world => { world with bus := bus }).ok (.message channel payload)
  | (bus, some .ended) =>
      (rig.update fun world =>
        { world with bus := bus.discard serial }.setStream stream .finished).ok .ended
  | (_, none) =>
      let (schedule, future) := rig.schedule.newFuture .plain
      let rig := (rig.withSchedule schedule).update fun world =>
        { world with waiting := world.waiting ++ [(serial, future)] }
      (rig, .wait (.app (.woken stream)) future)

def leaveBus (rig : Rig) (stream : Nat) : Rig :=
  match rig.state.streams[stream]? with
  | some (.subscribed serial) =>
      rig.update fun world =>
        { world with
          bus := world.bus.discard serial
          waiting := world.waiting.filter fun (other, _) => other ≠ serial
        }.setStream stream .finished
  | _ => rig

def replyMessage (rig : Rig) (parts : List Value) : Turn :=
  match messageOf parts with
  | .ok (channel, payload) => rig.ok (.message channel payload)
  | .error fault => rig.fault fault

def next (rig : Rig) (stream : Nat) : Turn :=
  match rig.state.streams[stream]? with
  | some (.unopened channels) =>
      let started := rig.state.bus.listen channels true
      let rig := (rig.update fun world => { world with bus := started.bus }).say started.logs
      match started.result with
      | .ok serial =>
          (rig.update fun world => world.setStream stream (.subscribed serial)).readBus
            stream serial
      | .error fault => (rig.update fun world => world.setStream stream .finished).fault fault
  | some (.subscribed serial) => rig.readBus stream serial
  | some (.scripted []) => rig.ok .ended
  | some (.scripted (item :: rest)) =>
      let rig := rig.update fun world => world.setStream stream (.scripted rest)
      match item with
      | .message parts => rig.replyMessage parts
      | .failure error => rig.fault (.raised error)
      | .wait length onCancel => rig.pause length (.waited stream onCancel)
  | some .silent => rig.hang
  | _ => rig.ok .ended

def waited (rig : Rig) (stream : Nat) (onCancel : OnCancel) (outcome : Outcome) : Turn :=
  match outcome, onCancel with
  | .ok _, _ => rig.call [.next stream]
  | .error .cancelled, .raises error => rig.fault (.raised error)
  | .error .cancelled, .yields parts => rig.replyMessage parts
  | outcome, _ => rig.finish outcome

def closeStream (rig : Rig) (stream : Nat) : Turn :=
  match rig.state.streams[stream]? with
  | some (.scripted _) | some .silent =>
      (rig.update fun world => { world with streamsClosed := world.streamsClosed + 1 }).ok .nothing
  | _ => (rig.leaveBus stream).ok .nothing

/-! ## Listeners -/

def listen (rig : Rig) (listener : Nat) : Turn :=
  match rig.state.listeners[listener]? with
  | some l => rig.call [.next l.stream, .listening listener]
  | none => rig.ok .nothing

def listening (rig : Rig) (listener : Nat) (outcome : Outcome) : Turn :=
  match outcome with
  | .ok (.message channel payload) =>
      let rig := rig.update fun world => world.countListener listener channel payload
      match rig.state.listeners[listener]? with
      | some l =>
          if l.wanted = some 0 then rig.call [.closeStream l.stream] else rig.listen listener
      | none => rig.ok .nothing
  | .ok _ => rig.ok .nothing
  | outcome => rig.finish outcome

/-! ## Clients -/

def acted (rig : Rig) (client : ConnectionName) (result : Socket × Socket.Sent) : Turn :=
  let rig := rig.update fun world => world.setSocket client result.1
  match result.2.outcome? with
  | some outcome => rig.finish outcome
  | none => rig.hang

def send (rig : Rig) (client : ConnectionName) (frame : Text) : Turn :=
  match rig.state.clients[client]? with
  | some (.scripted scripted) =>
      if 0 < scripted.delay then rig.pause scripted.delay (.sendAct client frame)
      else rig.call [.sendAct client frame]
  | some (.socket socket) => rig.acted client (socket.perform (.send frame))
  | none => rig.ok .nothing

def sendEnd (rig : Rig) (client : ConnectionName) (frame : Text) : Turn :=
  match rig.state.scripted? client with
  | none => rig.ok .nothing
  | some scripted =>
      let (scripted, failure) := scripted.take frame
      let rig := rig.update fun world => world.modifyClient client fun _ => scripted
      match failure with
      | some error => rig.fault (.raised error)
      | none => rig.ok .nothing

def sendAct (rig : Rig) (client : ConnectionName) (frame : Text) : Turn :=
  match (rig.state.scripted? client).bind (·.onSend) with
  | none => rig.sendEnd client frame
  | some step =>
      let rig := rig.update fun world =>
        world.modifyClient client fun scripted => { scripted with onSend := none }
      rig.call [.perform step, .sendEnd client frame]

def closeEnd (rig : Rig) (client : ConnectionName) : Turn :=
  match (rig.state.scripted? client).bind (·.closeFailure) with
  | some error => rig.fault (.raised error)
  | none => rig.ok .nothing

def close (rig : Rig) (client : ConnectionName) : Turn :=
  match rig.state.clients[client]? with
  | some (.scripted scripted) =>
      let rig := rig.update fun world => world.modifyClient client ScriptedClient.close
      match scripted.onClose with
      | some step => rig.call [.perform step, .closeEnd client]
      | none => rig.closeEnd client
  | some (.socket socket) => rig.acted client (socket.closeOnce 1000)
  | none => rig.ok .nothing

/-! ## The broadcaster -/

def setBroadcaster (rig : Rig) (broadcaster : Broadcaster) (logs : Logs) : Rig :=
  (rig.update fun world => { world with broadcaster := broadcaster }).say logs

def register (rig : Rig) (client : ConnectionName) (channels : Value) : Turn :=
  match channels.channelFilter with
  | .error fault => rig.fault fault
  | .ok channels =>
      let (broadcaster, count, logs) := rig.state.broadcaster.register client channels
      (rig.setBroadcaster broadcaster logs).ok (.count count)

def unregister (rig : Rig) (client : ConnectionName) : Turn :=
  let (broadcaster, removed) := rig.state.broadcaster.unregister client
  (rig.setBroadcaster broadcaster []).ok (.flag removed)

def broadcast (rig : Rig) (channel data : Value) : Turn :=
  match Broadcaster.frame channel data with
  | .error fault => rig.fault fault
  | .ok (channel, frame) =>
      let (broadcaster, targets) := rig.state.broadcaster.snapshot channel
      let rig := rig.setBroadcaster broadcaster []
      if targets.isEmpty then
        rig.ok (.count 0)
      else
        let deliveries := targets.map fun client => [.app (.deliver client frame .checking)]
        (rig, .call [.gather deliveries false, .app .countDelivered])

def countDelivered (rig : Rig) (outcome : Outcome) : Turn :=
  match outcome with
  | .ok (.tasks tasks) =>
      rig.ok (.count (tasks.countP fun task =>
        match rig.schedule.taskOutcome? task with
        | some (.ok (.flag true)) => true
        | _ => false))
  | outcome => rig.finish outcome

def pursue (rig : Rig) (client : ConnectionName) (frame : Text)
    (point : Broadcaster.Delivery) : Turn :=
  match point with
  | .checking => rig.ok .nothing
  | .sending =>
      let timeout := rig.state.sendTimeout
      (rig, .call [.limit timeout.milliseconds? timeout.isPositive [.app (.send client frame)],
        .app (.deliver client frame .sending)])
  | .closing => rig.call [.close client, .deliver client frame .closing]
  | .over delivered => rig.ok (.flag delivered)

def conduct? (rig : Rig) (client : ConnectionName) (point : Broadcaster.Delivery)
    (outcome : Outcome) : Option Broadcaster.Conduct :=
  match point, outcome with
  | .checking, .ok _ => some (.seen (rig.state.isOpen client))
  | .sending, .ok _ => some .sent
  | .sending, .error (.fault fault) => some (.raised fault)
  | .closing, .ok _ => some (.closed none)
  | .closing, .error (.fault fault) => some (.closed (some fault))
  | _, _ => none

def deliver (rig : Rig) (client : ConnectionName) (frame : Text) (point : Broadcaster.Delivery)
    (outcome : Outcome) : Turn :=
  match (rig.conduct? client point outcome).bind
      (rig.state.broadcaster.proceed client rig.state.sendTimeout point) with
  | some (broadcaster, point, logs) =>
      (rig.setBroadcaster broadcaster logs).pursue client frame point
  | none => rig.finish outcome

def closeNext (rig : Rig) (rest : List ConnectionName) (count : Nat) : Turn :=
  match rest with
  | [] => (rig.say (Broadcaster.allClosed count)).ok (.count count)
  | client :: rest => rig.call [.close client, .closingAll rest count]

def closeAll (rig : Rig) : Turn :=
  let (broadcaster, connections) := rig.state.broadcaster.takeAll
  (rig.setBroadcaster broadcaster []).closeNext connections connections.length

def closingAll (rig : Rig) (rest : List ConnectionName) (count : Nat) (outcome : Outcome) : Turn :=
  match outcome with
  | .ok _ => rig.closeNext rest count
  | .error (.fault fault) =>
      if fault.isOrdinary then
        (rig.say [Broadcaster.closeFailed fault]).closeNext rest count
      else
        rig.fault fault
  | .error .cancelled => rig.finish (.error .cancelled)

def perform (rig : Rig) (step : ClientStep) : Turn :=
  match step with
  | .register client channels => rig.register client channels
  | .unregister client => rig.unregister client
  | .broadcast channel data => rig.broadcast channel data
  | .closeAll => rig.closeAll
  | .change client change =>
      (rig.update fun world => world.modifyClient client (·.apply change)).ok .nothing
  | .gather steps =>
      let children := steps.map fun (delay, step) =>
        if 0 < delay then [Frame.pause (some delay) true, .app (.perform step)]
        else [.app (.perform step)]
      (rig, .call [.gather children true])

/-! ## The relay -/

def openStream (rig : Rig) (channels : List Channel) (loop : RelayLoop) : Turn :=
  let stream := rig.state.streams.length
  let add := fun (rig : Rig) (opened : Stream) =>
    (rig.update fun world => { world with streams := world.streams ++ [opened] }).call
      [.reply .nothing, .loop loop stream]
  match rig.state.source with
  | .bus => add rig (.unopened (.texts (channels.map Channel.name)))
  | .script sessions =>
      let rig := rig.update fun world =>
        { world with
          source := .script sessions.tail
          listens := world.listens ++ [(rig.schedule.clock, channels)] }
      match sessions with
      | [] => add rig .silent
      | .stream items :: _ => add rig (.scripted items)
      | .refused error :: _ =>
          rig.call [.reply (.error (.fault (.raised error))), .loop loop stream]

def address (rig : Rig) (channel : Channel) (body : Json) (act : Act) : Turn :=
  match rig.state.audience with
  | .clients => rig.call [.broadcast (.ofSlot (.channel channel)) body.toValue, act]
  | .script outcomes =>
      let rig := rig.update fun world => { world with audience := .script outcomes.tail }
      match outcomes.head?.join with
      | some error => rig.call [.reply (.error (.fault (.raised error))), act]
      | none =>
          (rig.update fun world =>
            { world with broadcasts := world.broadcasts ++ [(channel, body)] }).call
              [.reply .nothing, act]

def setRelay (rig : Rig) (relay : Relay) (logs : Logs) : Rig :=
  (rig.update fun world => { world with relay := relay }).say logs

def loop (rig : Rig) (loop : RelayLoop) (stream : Nat) (outcome : Outcome) : Turn :=
  let reaction := loop.react rig.state.relay outcome
  let rig := rig.setRelay reaction.relay reaction.logs
  match reaction.request with
  | .listen channels => rig.openStream channels reaction.loop
  | .take => rig.call [.next stream, .loop reaction.loop stream]
  | .broadcast channel body => rig.address channel body (.loop reaction.loop stream)
  | .closeStream => rig.call [.closeStream stream, .loop reaction.loop stream]
  | .pause length =>
      let pause := .pause length.milliseconds? length.isPositive
      (rig, .call [pause, .app (.loop reaction.loop stream)])
  | .finish outcome => rig.finish outcome

def handle (rig : Rig) (channel raw : Value) : Turn :=
  match rig.state.relay.examine channel raw with
  | .dropped relay entry => (rig.setRelay relay [entry]).ok (.flag false)
  | .accepted channel body => rig.address channel body (.handled channel)
  | .failed fault => rig.fault fault

def handled (rig : Rig) (channel : Channel) (outcome : Outcome) : Turn :=
  let settle := fun (failure : Option Fault) =>
    let (relay, relayed, logs) := rig.state.relay.settle channel failure
    (rig.setRelay relay logs).ok (.flag relayed)
  match outcome with
  | .ok _ => settle none
  | .error (.fault fault) => if fault.isOrdinary then settle (some fault) else rig.fault fault
  | .error .cancelled => rig.finish outcome

def startRelay (rig : Rig) : Rig :=
  if rig.state.relay.running then
    rig
  else
    let (schedule, task) := rig.schedule.spawn [.app (.loop (.start rig.state.relay) 0)]
    let (relay, logs) := rig.state.relay.start task
    (rig.withSchedule schedule).setRelay relay logs

def forgetRelay (rig : Rig) : Turn :=
  let (relay, logs) := rig.state.relay.forgetTask
  (rig.setRelay relay logs).ok .nothing

def stopRelay (rig : Rig) : Turn :=
  let rig := rig.setRelay rig.state.relay.askToStop []
  match rig.state.relay.task with
  | some task =>
      if rig.schedule.isTaskDone task then
        rig.forgetRelay
      else
        let rig := rig.withSchedule (rig.schedule.cancelTask task)
        (rig, .call [.await (rig.schedule.taskFuture task), .app .relayStopped])
  | none => rig.forgetRelay

def relayStopped (rig : Rig) (outcome : Outcome) : Turn :=
  match outcome with
  | .error (.fault fault) => rig.fault fault
  | _ => rig.forgetRelay

def relayRuns (rig : Rig) : Bool := rig.state.relay.isRunning rig.schedule.isTaskDone

/-! ## Sessions -/

def receive (rig : Rig) (client : ConnectionName) : Turn :=
  match rig.state.socket? client with
  | none => rig.ok .ended
  | some socket =>
      match socket.receive with
      | none =>
          let (schedule, future) := rig.schedule.newFuture .plain
          let rig := (rig.withSchedule schedule).update fun world =>
            world.setSocket client { socket with reader := some future }
          (rig, .wait (.app (.receive client)) future)
      | some (socket, result) =>
          (rig.update fun world => world.setSocket client socket).finish (Session.heard result)

def arrive (rig : Rig) (client : ConnectionName) (event : SocketEvent) : Rig :=
  match rig.state.socket? client with
  | none => rig
  | some socket =>
      let rig := rig.update fun world =>
        world.setSocket client { socket with inbox := socket.inbox ++ [event], reader := none }
      match socket.reader with
      | some future => rig.withSchedule (rig.schedule.complete future .nothing)
      | none => rig

def act (rig : Rig) (client : ConnectionName) (action : SocketAction) : Turn :=
  match rig.state.socket? client with
  | none => rig.ok .nothing
  | some socket => rig.acted client (socket.perform action)

def visit (rig : Rig) (number : Nat) (point : SessionPoint) (outcome : Outcome) : Turn :=
  match rig.state.visits[number]? with
  | none => rig.ok .nothing
  | some visit =>
      let reaction :=
        Session.react rig.state.broadcaster visit.client visit.filter point outcome
      let rig := rig.setBroadcaster reaction.broadcaster reaction.registering
      let rig := if visit.isHeard then rig.say reaction.logs else rig
      match reaction.request with
      | .reject =>
          let (rig, move) := rig.act visit.client (.close Session.policyViolation)
          match move with
          | .finish outcome => rig.call [.reply outcome, .visit number reaction.point]
          | move => (rig, move)
      | .accept =>
          rig.call [.receive visit.client, .accept visit.client, .visit number reaction.point]
      | .receive => rig.call [.receive visit.client, .visit number reaction.point]
      | .finish outcome => rig.finish outcome

/-! ## The end of the gateway -/

def gatewaySays (rig : Rig) (event : String) : Rig := rig.say [Session.log .info event []]

def shutdown (rig : Rig) (ownsBus : Bool) : Turn :=
  (rig.gatewaySays "gateway_shutdown_initiated").call [.stopRelay, .relayGone ownsBus]

def closeOwnBus (rig : Rig) (ownsBus : Bool) : Turn :=
  let rig := if ownsBus then rig.closeBus else rig
  (rig.gatewaySays "gateway_shutdown_complete").ok .nothing

/-! ## All frames -/

/-- The turn of a frame. Frames that do not handle a stop pass it on. -/
def resume (act : Act) (outcome : Outcome) (rig : Rig) : Turn :=
  match act, outcome with
  | .reply outcome, _ => rig.finish outcome
  | .loop relayLoop stream, outcome => rig.loop relayLoop stream outcome
  | .relayStopped, outcome => rig.relayStopped outcome
  | .handled channel, outcome => rig.handled channel outcome
  | .countDelivered, outcome => rig.countDelivered outcome
  | .deliver client frame point, outcome => rig.deliver client frame point outcome
  | .closingAll rest count, outcome => rig.closingAll rest count outcome
  | .waited stream onCancel, outcome => rig.waited stream onCancel outcome
  | .woken stream, .error stop => (rig.leaveBus stream).finish (.error stop)
  | .listening listener, outcome => rig.listening listener outcome
  | .visit number point, outcome => rig.visit number point outcome
  | _, .error stop => rig.finish (.error stop)
  | .stopRelay, _ => rig.stopRelay
  | .handle channel raw, _ => rig.handle channel raw
  | .broadcast channel data, _ => rig.broadcast channel data
  | .closeAll, _ => rig.closeAll
  | .send client frame, _ => rig.send client frame
  | .sendAct client frame, _ => rig.sendAct client frame
  | .sendEnd client frame, _ => rig.sendEnd client frame
  | .close client, _ => rig.close client
  | .closeEnd client, _ => rig.closeEnd client
  | .perform step, _ => rig.perform step
  | .next stream, _ => rig.next stream
  | .woken stream, _ => rig.next stream
  | .closeStream stream, _ => rig.closeStream stream
  | .listen listener, _ => rig.listen listener
  | .receive client, _ => rig.receive client
  | .accept client, _ => rig.act client .accept
  | .shutdown ownsBus, _ => rig.shutdown ownsBus
  | .relayGone ownsBus, _ => rig.call [.closeAll, .clientsGone ownsBus]
  | .clientsGone ownsBus, _ => rig.closeOwnBus ownsBus

def programs : Programs Act World := ⟨resume, post⟩

def effort : Nat := 1000000

def settle (rig : Rig) : Rig := Machine.settle programs effort rig

def begin (rig : Rig) (act : Act) : Rig × Nat :=
  let (schedule, task) := rig.schedule.spawn [.app act]
  (rig.withSchedule schedule, task)

def complete (rig : Rig) (act : Act) : Rig × Outcome :=
  let (rig, task) := rig.begin act
  let rig := Machine.runTask programs effort task effort rig
  (rig, rig.schedule.outcomeOf task)

def advance (rig : Rig) (length : Rat) : Rig :=
  let rig : Rig := Machine.runUntil programs effort (rig.schedule.clock + length) effort rig
  rig.settle

end LedgerFeed.Rehearsal.Rig
