import Mathlib.Logic.Relation
import LedgerFeed.Proofs.Gateway.Accounts
import LedgerFeed.Rehearsal.Programs

/-!
# Sessions side by side

Any number of WebSocket sessions share one broadcaster, which broadcasts to their connections, drops
some of them and closes all. A session goes on whenever what it waits for has come, and its wait can
be broken off at any time. What a delivery finds out about a connection need not agree with the
connection's socket, so there are more runs here than occur.
-/

namespace LedgerFeed

/-! ## One session -/

inductive SessionWait
  | turn
  | greeting
  | event
  | action (sent : Socket.Sent)
  | over (outcome : Outcome)

inductive Exchange
  | asks (action : SocketAction)
  | returns
  | raises
  deriving DecidableEq

structure LiveSession where
  filter : Option String
  socket : Socket
  point : SessionPoint
  wait : SessionWait
  exchanges : List Exchange

namespace LiveSession

def fresh (filter : Option String) : LiveSession := ⟨filter, .fresh, .starting, .turn, []⟩

def isOver (session : LiveSession) : Bool := session.wait matches .over _

def asked (session : LiveSession) : List SocketAction :=
  session.exchanges.filterMap fun
    | .asks action => some action
    | .returns | .raises => none

def ask (session : LiveSession) (action : SocketAction) : LiveSession :=
  { session with exchanges := session.exchanges ++ [.asks action] }

def act (session : LiveSession) (action : SocketAction) : LiveSession :=
  let (socket, sent) := session.socket.perform action
  { session with socket := socket, wait := .action sent }

def pursue (session : LiveSession) : SessionRequest → LiveSession
  | .reject =>
      (session.ask (.close Session.policyViolation)).act (.close Session.policyViolation)
  | .accept => { session.ask .accept with wait := .greeting }
  | .receive => { session with wait := .event }
  | .finish outcome => { session with wait := .over outcome }

def answer : Outcome → Exchange
  | .ok _ => .returns
  | .error _ => .raises

def conclude (session : LiveSession) (outcome : Outcome) : LiveSession :=
  match session.point with
  | .rejecting | .accepting _ =>
      { session with exchanges := session.exchanges ++ [answer outcome] }
  | .starting | .receiving => session

inductive Ends (session : LiveSession) : Socket → Outcome → Prop
  | turn (waits : session.wait = .turn) : Ends session session.socket .nothing
  | unwelcome {socket : Socket} {fault : Fault} (waits : session.wait = .greeting)
      (received : session.socket.receive = some (socket, .error fault)) :
      Ends session socket (.error (.fault fault))
  | event {socket : Socket} {result : Except Fault SocketEvent} (waits : session.wait = .event)
      (received : session.socket.receive = some (socket, result)) :
      Ends session socket (Session.heard result)
  | action {sent : Socket.Sent} {outcome : Outcome} (waits : session.wait = .action sent)
      (ended : sent.outcome? = some outcome) : Ends session session.socket outcome
  | broken (stop : Stop)
      (waits : session.wait = .greeting ∨ session.wait = .event ∨
        ∃ sent, session.wait = .action sent) :
      Ends session session.socket (.error stop)

end LiveSession

/-! ## All sessions -/

namespace Traffic

def Act.Shared : Act → Prop
  | .broadcast _ _ | .deed _ _ | .closeAll | .closeEnds _ => True
  | .register _ _ | .unregister _ => False

def Sends (traffic : Traffic) (client : ConnectionName) (frame : Text) : Prop :=
  ∃ fanOut ∈ traffic.fanOuts, fanOut.frame = frame ∧
    ∃ dispatch ∈ fanOut.dispatches, dispatch.client = client ∧ dispatch.point = .sending

def Closes (traffic : Traffic) (client : ConnectionName) : Prop :=
  (∃ fanOut ∈ traffic.fanOuts, ∃ dispatch ∈ fanOut.dispatches,
    dispatch.client = client ∧ dispatch.point = .closing) ∨
    ∃ rest, client :: rest ∈ traffic.sweeps

def Engages (traffic : Traffic) (client : ConnectionName) : Prop :=
  (∃ fanOut ∈ traffic.fanOuts, ∃ dispatch ∈ fanOut.dispatches, dispatch.client = client) ∨
    ∃ taken ∈ traffic.sweeps, client ∈ taken

end Traffic

/-- What a turn of a session means for its connection, read off the broadcaster before and after. -/
def Broadcaster.noted (before after : Broadcaster) (client : ConnectionName) : List Occurrence :=
  List.replicate (after.connectedTotal - before.connectedTotal) (.registered client) ++
    if before.isRegistered client && !after.isRegistered client then [.removed client .caller]
    else []

structure Sessions where
  traffic : Traffic
  live : List LiveSession

namespace Sessions

def idle (sendTimeout : Seconds) : Sessions := ⟨.idle sendTimeout, []⟩

def set (sessions : Sessions) (client : ConnectionName) (session : LiveSession) : Sessions :=
  { sessions with live := sessions.live.set client session }

def turn (sessions : Sessions) (client : ConnectionName) (session : LiveSession)
    (outcome : Outcome) : Sessions :=
  let before := sessions.traffic.broadcaster
  let reaction := Session.react before client session.filter session.point outcome
  { traffic := { sessions.traffic with
      broadcaster := reaction.broadcaster
      history := sessions.traffic.history ++ before.noted reaction.broadcaster client }
    live := sessions.live.set client
      ({ session.conclude outcome with point := reaction.point }.pursue reaction.request) }

/-- What happens next: a client connects, something comes from a client or befalls the network, a
session goes on, the broadcaster acts on a socket, or one of its own calls goes on. -/
inductive Step : Sessions → Sessions → Prop
  | connects {sessions : Sessions} (filter : Option String) :
      Step sessions { sessions with live := sessions.live ++ [.fresh filter] }
  | network {sessions : Sessions} {client : ConnectionName} {session : LiveSession}
      (events : List SocketEvent) (failure : Option Raised) (stalled : Bool)
      (found : sessions.live[client]? = some session) :
      Step sessions (sessions.set client { session with
        socket := { session.socket with
          inbox := session.socket.inbox ++ events
          failure := failure
          stalled := stalled } })
  | greets {sessions : Sessions} {client : ConnectionName} {session : LiveSession}
      {socket : Socket} {event : SocketEvent}
      (found : sessions.live[client]? = some session) (waits : session.wait = .greeting)
      (received : session.socket.receive = some (socket, .ok event)) :
      Step sessions (sessions.set client ({ session with socket := socket }.act .accept))
  | turn {sessions : Sessions} {client : ConnectionName} {session : LiveSession}
      {socket : Socket} {outcome : Outcome}
      (found : sessions.live[client]? = some session) (ends : session.Ends socket outcome) :
      Step sessions (sessions.turn client { session with socket := socket } outcome)
  | sends {sessions : Sessions} {client : ConnectionName} {session : LiveSession} {frame : Text}
      (found : sessions.live[client]? = some session)
      (sends : sessions.traffic.Sends client frame) :
      Step sessions (sessions.set client { session with
        socket := (session.socket.perform (.send frame)).1 })
  | closes {sessions : Sessions} {client : ConnectionName} {session : LiveSession}
      (found : sessions.live[client]? = some session) (closes : sessions.traffic.Closes client) :
      Step sessions (sessions.set client { session with
        socket := (session.socket.closeOnce 1000).1 })
  | traffic {sessions : Sessions} {act : Traffic.Act} {next : Traffic} (shared : act.Shared)
      (step : Traffic.Step act sessions.traffic next) :
      Step sessions { sessions with traffic := next }

end Sessions

/-! ## The sessions of a rehearsal -/

namespace Rehearsal

variable {world : World} {client : ConnectionName} {socket : Socket}

theorem World.socket?_eq_some : world.socket? client = some socket ↔
    world.clients[client]? = some (.socket socket) := by
  unfold World.socket?
  split <;> simp_all

theorem World.setSocket_socket? (connected : world.socket? client = some socket) (later : Socket) :
    (world.setSocket client later).socket? client = some later := by
  have bound := (List.getElem?_eq_some_iff.mp (socket?_eq_some.mp connected)).1
  exact socket?_eq_some.mpr (List.getElem?_set_self bound)

theorem Rig.act_moves {rig : Rig} (connected : rig.state.socket? client = some socket)
    (action : SocketAction) :
    (rig.act client action).1.state.broadcaster = rig.state.broadcaster ∧
      (rig.act client action).1.state.socket? client = some (socket.perform action).1 := by
  rw [act, connected]
  simp only [acted]
  split <;> exact ⟨rfl, World.setSocket_socket? connected _⟩

end Rehearsal

namespace Sessions

open Rehearsal (Rig Visit World)

theorem visit_turns (rig : Rig) {number : Nat} {visit : Visit} {sessions : Sessions}
    {session : LiveSession} (visits : rig.state.visits[number]? = some visit)
    (found : sessions.live[visit.client]? = some session) (filter : session.filter = visit.filter)
    (connected : rig.state.socket? visit.client = some session.socket)
    (shared : sessions.traffic.broadcaster = rig.state.broadcaster) (outcome : Outcome) :
    let world := (rig.visit number session.point outcome).1.state
    let next := sessions.turn visit.client session outcome
    world.broadcaster = next.traffic.broadcaster ∧
      world.socket? visit.client = next.live[visit.client]?.map (·.socket) := by
  have bound := (List.getElem?_eq_some_iff.mp found).1
  have concluded : (session.conclude outcome).socket = session.socket := by
    unfold LiveSession.conclude
    split <;> rfl
  have heard (rig : Rig) (logs : Logs) (isHeard : Bool) :
      (if isHeard then rig.say logs else rig).state.broadcaster = rig.state.broadcaster ∧
        (if isHeard then rig.say logs else rig).state.clients = rig.state.clients := by
    cases isHeard <;> exact ⟨rfl, rfl⟩
  intro world next
  simp only [world, next, turn, List.getElem?_set_self bound, Option.map_some, Rig.visit, visits,
    filter, shared]
  generalize Session.react rig.state.broadcaster visit.client visit.filter session.point outcome =
    reaction
  obtain ⟨broadcaster, clients⟩ :=
    heard (rig.setBroadcaster reaction.broadcaster reaction.registering) reaction.logs visit.isHeard
  generalize (if visit.isHeard then _ else _) = later at *
  have still : later.state.socket? visit.client = some (session.conclude outcome).socket := by
    rw [concluded, ← connected, World.socket?, clients]
    rfl
  cases reaction.request with
  | reject =>
      obtain ⟨kept, acted⟩ := Rig.act_moves still (.close Session.policyViolation)
      generalize later.act visit.client (.close Session.policyViolation) = moved at kept acted
      obtain ⟨moved, move⟩ := moved
      cases move <;> exact ⟨kept.trans broadcaster, acted⟩
  | accept | receive | finish => exact ⟨broadcaster, still⟩

end Sessions

/-! ## What a turn does -/

inductive Session.Reacts (broadcaster : Broadcaster) (client : ConnectionName)
    (filter : Option String) :
    SessionPoint → Outcome → Broadcaster → SessionPoint → SessionRequest → Prop
  | rejects {fault : Fault} (refused : Session.channels filter = .error fault) (reply : Reply) :
      Reacts broadcaster client filter .starting (.ok reply) broadcaster .rejecting .reject
  | accepts {channels : List Channel} (named : Session.channels filter = .ok channels)
      (reply : Reply) :
      Reacts broadcaster client filter .starting (.ok reply) broadcaster (.accepting channels)
        .accept
  | joins (channels : List Channel) (reply : Reply) :
      Reacts broadcaster client filter (.accepting channels) (.ok reply)
        (broadcaster.register client channels).1 .receiving .receive
  | listens (reply : Reply) :
      Reacts broadcaster client filter .receiving (.ok reply) broadcaster .receiving .receive
  | leaves (outcome result : Outcome) :
      Reacts broadcaster client filter .receiving outcome (broadcaster.unregister client).1
        .receiving (.finish result)
  | ends {point : SessionPoint} (outcome : Outcome) (apart : point ≠ .receiving)
      (idle : ∀ reply, outcome = .ok reply → point = .rejecting) :
      Reacts broadcaster client filter point outcome broadcaster point (.finish outcome)

theorem Session.react_cases (broadcaster : Broadcaster) (client : ConnectionName)
    (filter : Option String) (point : SessionPoint) (outcome : Outcome) :
    let reaction := Session.react broadcaster client filter point outcome
    Session.Reacts broadcaster client filter point outcome reaction.broadcaster reaction.point
      reaction.request := by
  have lost (fault : Fault) : ∃ result logs,
      Session.lost broadcaster client fault = Session.leave broadcaster client logs result := by
    unfold Session.lost
    split <;> exact ⟨_, _, rfl⟩
  intro reaction
  cases point with
  | starting =>
      cases outcome with
      | ok reply =>
          cases channels : Session.channels filter with
          | ok =>
              simp only [reaction, Session.react, channels]
              exact .accepts channels reply
          | error =>
              simp only [reaction, Session.react, channels]
              exact .rejects channels reply
      | error stop => exact .ends _ nofun nofun
  | rejecting => cases outcome <;> exact .ends _ nofun fun _ _ => rfl
  | accepting channels =>
      cases outcome with
      | ok reply => exact .joins channels reply
      | error stop => exact .ends _ nofun nofun
  | receiving =>
      cases outcome with
      | ok reply =>
          cases reply with
          | ended => exact .leaves _ _
          | nothing | flag | count | message | tasks => exact .listens _
      | error stop =>
          cases stop with
          | fault fault =>
              obtain ⟨result, logs, same⟩ := lost fault
              simp only [reaction, Session.react, same]
              exact .leaves _ _
          | cancelled => exact .leaves _ _

/-! ## What becomes of a socket -/

namespace Socket

variable {socket next : Socket}

theorem perform_actions (socket : Socket) (action : SocketAction) :
    ((socket.perform action).1.actions = socket.actions ++ [action] ∧
        (socket.perform action).2 = .done) ∨
      ((socket.perform action).1.actions = socket.actions ∧ (socket.perform action).2 ≠ .done) := by
  have transmits (socket : Socket) (isConnected : Bool) :
      ((socket.transmit action isConnected).1.actions = socket.actions ++ [action] ∧
          (socket.transmit action isConnected).2 = .done) ∨
        ((socket.transmit action isConnected).1.actions = socket.actions ∧
          (socket.transmit action isConnected).2 ≠ .done) := by
    unfold transmit
    split
    · split <;> exact .inr ⟨rfl, nofun⟩
    · exact .inr ⟨rfl, nofun⟩
    · exact .inl ⟨rfl, rfl⟩
  unfold perform
  split
  · exact .inr ⟨rfl, nofun⟩
  · exact transmits _ _
  · exact .inr ⟨rfl, nofun⟩
  · exact transmits _ _
  · exact .inr ⟨rfl, nofun⟩

theorem perform_keeps {action : SocketAction} (h : action ∈ socket.actions) (other : SocketAction) :
    action ∈ (socket.perform other).1.actions := by
  rcases socket.perform_actions other with ⟨actions, -⟩ | ⟨actions, -⟩
  · exact actions ▸ List.mem_append_left _ h
  · exact actions ▸ h

theorem closeOnce_keeps {action : SocketAction} (h : action ∈ socket.actions) (code : Nat) :
    action ∈ (socket.closeOnce code).1.actions := by
  unfold closeOnce
  split
  · exact h
  · exact perform_keeps h _

theorem receive_keeps {result : Except Fault SocketEvent}
    (h : socket.receive = some (next, result)) :
    next.actions = socket.actions ∧ next.gateway = socket.gateway := by
  have takes (socket : Socket) (event : SocketEvent) :
      (socket.take event).1.actions = socket.actions ∧
        (socket.take event).1.gateway = socket.gateway := by
    unfold take
    dsimp only
    split <;> exact ⟨rfl, rfl⟩
  unfold receive at h
  split at h
  · cases h
    exact ⟨rfl, rfl⟩
  · split at h
    · cases h
    · rename_i event rest _
      have same : ({ socket with inbox := rest }.take event).1 = next :=
        congrArg Prod.fst (Option.some.inj h)
      exact same ▸ takes { socket with inbox := rest } event

end Socket

namespace LiveSession

variable {session : LiveSession} {socket : Socket} {outcome : Outcome}

def Told (session : LiveSession) (outcome : Outcome) : Prop :=
  match session.wait with
  | .turn => outcome = .nothing
  | .greeting => ∃ stop, outcome = .error stop
  | .event => True
  | .action sent => ∀ reply, outcome = .ok reply → sent = .done
  | .over _ => False

theorem Ends.keeps (h : session.Ends socket outcome) :
    socket.actions = session.socket.actions ∧ socket.gateway = session.socket.gateway := by
  cases h with
  | turn | action | broken => exact ⟨rfl, rfl⟩
  | unwelcome _ received | event _ received => exact Socket.receive_keeps received

theorem Ends.told (h : session.Ends socket outcome) : session.Told outcome := by
  unfold Told
  cases h with
  | turn waits =>
      rw [waits]
  | unwelcome waits =>
      rw [waits]
      exact ⟨_, rfl⟩
  | event waits =>
      rw [waits]
      trivial
  | @action sent _ waits ended =>
      rw [waits]
      rintro reply rfl
      cases sent with
      | done => rfl
      | hanging | failed => cases ended
  | broken stop waits =>
      rcases waits with waits | waits | ⟨sent, waits⟩
      · rw [waits]
        exact ⟨stop, rfl⟩
      · rw [waits]
        trivial
      · rw [waits]
        exact nofun

end LiveSession

end LedgerFeed
