import LedgerFeed.Gateway.Broadcaster
import LedgerFeed.Gateway.Socket
import LedgerFeed.Schedule.Basic

namespace LedgerFeed

/-- What a session waits for. -/
inductive SessionPoint
  | starting
  | rejecting
  | accepting (channels : List Channel)
  | receiving
  deriving DecidableEq, Repr

inductive SessionRequest
  | reject
  | accept
  | receive
  | finish (outcome : Outcome)

def Socket.Sent.outcome? : Socket.Sent → Option Outcome
  | .done => some .nothing
  | .hanging => none
  | .failed fault => some (.error (.fault fault))

structure SessionReaction where
  broadcaster : Broadcaster
  point : SessionPoint
  logs : Logs
  registering : Logs
  request : SessionRequest

namespace Session

def component : String := "gateway"

def log (level : Level) (event : String) (fields : List (String × Value)) : LogEntry :=
  entry component level event fields

def policyViolation : Nat := 1008

def heard : Except Fault SocketEvent → Outcome
  | .ok .disconnect => .ok .ended
  | .ok _ => .nothing
  | .error fault => .error (.fault fault)

def channels (filter : Option String) : Except Fault (List Channel) :=
  (Value.ofText? filter).channelFilter

def leave (broadcaster : Broadcaster) (connection : ConnectionName) (logs : Logs)
    (outcome : Outcome) : SessionReaction :=
  let (broadcaster, _) := broadcaster.unregister connection
  ⟨broadcaster, .receiving,
    logs ++ [log .info "websocket_disconnected"
      [("client_count", .ofNat broadcaster.connectionCount)]], [], .finish outcome⟩

def lost (broadcaster : Broadcaster) (connection : ConnectionName) (fault : Fault) :
    SessionReaction :=
  match fault.kind with
  | "WebSocketDisconnect" =>
      leave broadcaster connection [log .debug "websocket_client_disconnected" []] .nothing
  | "RuntimeError" =>
      leave broadcaster connection
        [log .debug "websocket_receive_after_close" [("error", .text fault.message)]] .nothing
  | _ => leave broadcaster connection [] (.error (.fault fault))

def react (broadcaster : Broadcaster) (connection : ConnectionName) (filter : Option String)
    (point : SessionPoint) (outcome : Outcome) : SessionReaction :=
  match point, outcome with
  | .starting, .ok _ =>
      match channels filter with
      | .ok channels => ⟨broadcaster, .accepting channels, [], [], .accept⟩
      | .error fault =>
          ⟨broadcaster, .rejecting,
            [log .info "websocket_rejected" [("reason", .text fault.message)]], [], .reject⟩
  | .accepting channels, .ok _ =>
      let (broadcaster, count, registering) := broadcaster.register connection channels
      ⟨broadcaster, .receiving,
        [log .info "websocket_connected" [("client_count", .ofNat count)]], registering, .receive⟩
  | .receiving, .ok .ended => leave broadcaster connection [] .nothing
  | .receiving, .ok _ => ⟨broadcaster, .receiving, [], [], .receive⟩
  | .receiving, .error (.fault fault) => lost broadcaster connection fault
  | .receiving, .error .cancelled => leave broadcaster connection [] (.error .cancelled)
  | _, outcome => ⟨broadcaster, point, [], [], .finish outcome⟩

end Session

end LedgerFeed
