import LedgerFeed.Proofs.Gateway.Turns
import LedgerFeed.Proofs.Service.Steps

namespace LedgerFeed

def RelayLoop.move (loop : RelayLoop) (stream : Nat) : LoopRequest → Move Rehearsal.Act
  | .listen _ => .call [.app (.reply .nothing), .app (.loop loop stream)]
  | .take => .call [.app (.next stream), .app (.loop loop stream)]
  | .broadcast channel body =>
      .call [.app (.broadcast (.ofSlot (.channel channel)) body.toValue), .app (.loop loop stream)]
  | .closeStream => .call [.app (.closeStream stream), .app (.loop loop stream)]
  | .pause length =>
      .call [.pause length.milliseconds? length.isPositive, .app (.loop loop stream)]
  | .finish outcome => .finish outcome

namespace Rehearsal.Rig

structure Runs (rig : Rig) (service : Service) : Prop where
  bus : rig.state.bus = service.bus.bus
  relay : rig.state.relay = service.relay
  broadcaster : rig.state.broadcaster = service.broadcaster
  sendTimeout : rig.state.sendTimeout = service.sendTimeout
  source : rig.state.source = .bus
  audience : rig.state.audience = .clients

def Reads (rig : Rig) (service : Service) (stream : Nat) : Prop :=
  rig.state.streams[stream]? = some service.stream

variable {rig : Rig} {service : Service} {stream : Nat}

theorem loop_turn (runs : rig.Runs service) (stream : Nat) (outcome : Outcome) :
    let turn := resume (.loop service.loop stream) outcome rig
    let next := service.answer outcome
    turn.1.Runs next ∧
      match next.request with
      | .listen channels =>
          turn.1.state.streams =
              rig.state.streams ++ [.unopened (.texts (channels.map Channel.name))] ∧
            turn.2 = next.loop.move rig.state.streams.length next.request
      | request =>
          turn.1.state.streams = rig.state.streams ∧ turn.2 = next.loop.move stream request := by
  simp only [resume, loop, Service.answer, runs.relay]
  generalize service.loop.react service.relay outcome = reaction
  obtain ⟨relay, loop, logs, request⟩ := reaction
  have kept : (rig.setRelay relay logs).Runs
      { service with relay := relay, loop := loop, request := request } :=
    { runs with relay := rfl }
  cases request with
  | listen channels =>
      simp only [openStream, kept.source]
      exact ⟨{ kept with }, rfl, rfl⟩
  | broadcast channel body =>
      simp only [address, kept.audience]
      exact ⟨kept, rfl, rfl⟩
  | take | closeStream | pause | finish => exact ⟨kept, rfl, rfl⟩

def Replies (turn : Turn) (service : Service) (stream : Nat) : Prop :=
  match service.next with
  | some next => ∃ outcome later, turn.2 = .finish outcome ∧ next = Service.answer later outcome ∧
      turn.1.Runs later ∧ turn.1.Reads later stream
  | none => ∃ future, turn.2 = .wait (.app (.woken stream)) future ∧
      turn.1.Runs service ∧ turn.1.Reads service stream

theorem readBus_turn (runs : rig.Runs service) (reads : rig.Reads service stream) {serial : Nat}
    (subscribed : service.stream = .subscribed serial) :
    Replies (rig.readBus stream serial) service stream := by
  have bound := (List.getElem?_eq_some_iff.mp reads).1
  simp only [Replies, readBus, Service.next, subscribed, Service.read, ← runs.bus]
  generalize rig.state.bus.receive serial = received
  obtain ⟨bus, posting⟩ := received
  cases posting with
  | none =>
      exact ⟨_, rfl, { runs with }, reads⟩
  | some posting =>
      cases posting with
      | message channel payload =>
          exact ⟨_, _, rfl, rfl, { runs with bus := rfl }, reads⟩
      | ended =>
          exact ⟨_, _, rfl, rfl, { runs with bus := rfl }, List.getElem?_set_self bound⟩

theorem next_turn (runs : rig.Runs service) (reads : rig.Reads service stream)
    (unscripted : ∀ items, service.stream ≠ .scripted items) (sounds : service.stream ≠ .silent)
    (reply : Reply) :
    ∃ opened, (opened = service ∨ service.next = some opened) ∧
      Replies (resume (.next stream) (.ok reply) rig) opened stream := by
  have bound := (List.getElem?_eq_some_iff.mp reads).1
  simp only [resume, next, show rig.state.streams[stream]? = some service.stream from reads]
  cases place : service.stream with
  | scripted items => exact absurd place (unscripted items)
  | silent => exact absurd place sounds
  | finished =>
      refine ⟨service, .inl rfl, ?_⟩
      simp only [Replies, Service.next, place]
      exact ⟨_, service, rfl, rfl, runs, reads⟩
  | subscribed serial => exact ⟨service, .inl rfl, readBus_turn runs reads place⟩
  | unopened channels =>
      simp only [Service.next, place, runs.bus]
      generalize found : service.bus.bus.listen channels true = started
      obtain ⟨bus, result, logs⟩ := started
      cases result with
      | ok serial =>
          refine ⟨_, .inr rfl, readBus_turn ?_ ?_ rfl⟩
          · exact { runs with bus := rfl }
          · exact List.getElem?_set_self bound
      | error fault =>
          refine ⟨service, .inl rfl, ?_⟩
          simp only [Replies, Service.next, place, found]
          exact ⟨_, _, rfl, rfl, { runs with bus := rfl }, List.getElem?_set_self bound⟩

theorem closeStream_turn (runs : rig.Runs service) (reads : rig.Reads service stream)
    (unscripted : ∀ items, service.stream ≠ .scripted items) (sounds : service.stream ≠ .silent)
    (reply : Reply) :
    let turn := resume (.closeStream stream) (.ok reply) rig
    turn.1.Runs service.closeStream ∧ turn.1.Reads service.closeStream stream ∧
      turn.2 = .finish .nothing := by
  have bound := (List.getElem?_eq_some_iff.mp reads).1
  have found : rig.state.streams[stream]? = some service.stream := reads
  simp only [resume, closeStream, leaveBus, found, Service.closeStream]
  cases place : service.stream with
  | scripted items => exact absurd place (unscripted items)
  | silent => exact absurd place sounds
  | finished | unopened => exact ⟨runs, reads, rfl⟩
  | subscribed serial =>
      exact ⟨{ runs with bus := congrArg (·.discard serial) runs.bus },
        List.getElem?_set_self bound, rfl⟩

theorem relay_broadcast_turn (runs : rig.Runs service) (idle : service.fanOut = none)
    (channel : Channel) (body : Json) (reply : Reply) :
    let turn := resume (.broadcast (.ofSlot (.channel channel)) body.toValue) (.ok reply) rig
    (∃ fault, turn = rig.fault fault ∧
        service.broadcast channel body = some (service.answer (.error (.fault fault)))) ∨
      ∃ later fanOut, service.broadcast channel body = some later ∧ later.fanOut = some fanOut ∧
        turn.1.Runs later ∧ turn.2 = fanOut.begin := by
  simp only [resume, broadcast_moves, Service.broadcast, idle, runs.broadcaster]
  cases Broadcaster.frame (.ofSlot (.channel channel)) body.toValue with
  | error fault => exact .inl ⟨fault, rfl, rfl⟩
  | ok framed =>
      exact .inr ⟨_, _, rfl, rfl, { runs with broadcaster := rfl }, rfl⟩

theorem relay_broadcast_returns {fanOut : FanOut} (under : service.fanOut = some fanOut)
    (isOver : fanOut.isOver = true) (channel : Channel) (body : Json) :
    ∃ count, fanOut.Returns count ∧ service.broadcast channel body =
      some ({ service with fanOut := none }.answer (.ok (.count count))) := by
  refine ⟨fanOut.delivered, (returns_iff isOver).mpr rfl, ?_⟩
  simp only [Service.broadcast, under, isOver, ↓reduceIte]

theorem advance_turn (runs : rig.Runs service) {fanOut : FanOut} {before after : List Dispatch}
    {dispatch : Dispatch} (under : service.fanOut = some fanOut)
    (split : fanOut.dispatches = before ++ dispatch :: after) (outcome : Outcome) :
    let turn := resume (.deliver dispatch.client fanOut.frame dispatch.point) outcome rig
    turn = rig.finish outcome ∨ ∃ conduct broadcaster next,
      let later := service.advance fanOut before dispatch after broadcaster next
      (∀ client, (dispatch.client = client → (Deed.does conduct).Steady) →
        Service.Internal client service later) ∧
      turn.1.Runs later ∧
      turn.2 = next.point.move service.sendTimeout dispatch.client fanOut.frame := by
  rcases rig.deliver_cases dispatch fanOut.frame outcome with
    passes | ⟨conduct, broadcaster, next, logs, -, step, turn⟩
  · exact .inl passes
  · rw [runs.broadcaster, runs.sendTimeout] at step
    refine .inr ⟨conduct, broadcaster, next, fun client steady =>
      .advance (.does conduct) under split steady step, ?_, ?_⟩
    · rw [turn]
      exact { runs with broadcaster := rfl }
    · rw [turn, runs.sendTimeout]

theorem post_turn (runs : rig.Runs service) (reads : rig.Reads service stream) :
    rig.post.Runs service.deliver ∧ rig.post.Reads service.deliver stream := by
  unfold post
  dsimp only
  have delivered := congrArg MemoryBus.deliver runs.bus
  split <;> exact ⟨{ runs with bus := delivered }, reads⟩

end Rehearsal.Rig

end LedgerFeed
