import LedgerFeed.Fault

namespace LedgerFeed

inductive SocketState
  | connecting
  | connected
  | disconnected
  deriving DecidableEq, Repr

inductive SocketEvent
  | connect
  | text (t : Text)
  | octets (bytes : List UInt8)
  | disconnect
  deriving Repr

inductive SocketAction
  | accept
  | send (text : Text)
  | close (code : Nat)
  deriving DecidableEq, Repr

structure Socket where
  client : SocketState
  gateway : SocketState
  inbox : List SocketEvent
  reader : Option Nat
  failure : Option Raised
  stalled : Bool
  actions : List SocketAction

namespace Socket

def fresh : Socket := ⟨.connecting, .connecting, [.connect], none, none, false, []⟩

def isOpen (socket : Socket) : Bool := socket.client = .connected && socket.gateway = .connected

def runtimeError (text : String) : Fault := .raised ⟨"RuntimeError", false, some text⟩

def SocketEvent.name : SocketEvent → String
  | .connect => "websocket.connect"
  | .text _ => "websocket.receive"
  | .octets _ => "websocket.receive"
  | .disconnect => "websocket.disconnect"

def SocketAction.name : SocketAction → String
  | .accept => "websocket.accept"
  | .send _ => "websocket.send"
  | .close _ => "websocket.close"

def take (socket : Socket) (event : SocketEvent) : Socket × Except Fault SocketEvent :=
  let name := SocketEvent.name event
  match socket.client, event with
  | .connecting, .connect => ({ socket with client := .connected }, .ok event)
  | .connecting, _ =>
      (socket, .error (runtimeError
        s!"Expected ASGI message \"websocket.connect\", but got '{name}'"))
  | _, .connect =>
      (socket, .error (runtimeError
        ("Expected ASGI message \"websocket.receive\" or \"websocket.disconnect\", but got " ++
          s!"'{name}'")))
  | _, .disconnect => ({ socket with client := .disconnected }, .ok event)
  | _, _ => (socket, .ok event)

def receivedAfterEnd : Fault :=
  runtimeError "Cannot call \"receive\" once a disconnect message has been received."

def receive (socket : Socket) : Option (Socket × Except Fault SocketEvent) :=
  if socket.client = .disconnected then
    some (socket, .error receivedAfterEnd)
  else
    match socket.inbox with
    | [] => none
    | event :: rest => some ({ socket with inbox := rest }.take event)

/-- What becomes of an action. -/
inductive Sent
  | done
  | hanging
  | failed (fault : Fault)

def refused (expected : String) (action : SocketAction) : Sent :=
  let name := SocketAction.name action
  .failed (runtimeError s!"Expected ASGI message {expected}, but got '{name}'")

def stateAfter : SocketAction → SocketState
  | .close _ => .disconnected
  | _ => .connected

/-- Hands an allowed action to the network. Errors of the system mean that the client is gone. -/
def transmit (socket : Socket) (action : SocketAction) (isConnected : Bool) : Socket × Sent :=
  match socket.failure, action, socket.stalled with
  | some error, _, _ =>
      if isConnected && isSystemError error then
        ({ socket with gateway := .disconnected },
          .failed (.raised ⟨"WebSocketDisconnect", false, none⟩))
      else
        (socket, .failed (.raised error))
  | none, .send _, true => (socket, .hanging)
  | none, action, _ => ({ socket with actions := socket.actions ++ [action] }, .done)
where
  isSystemError (error : Raised) : Bool :=
    !error.fromStore &&
      ["OSError", "IOError", "ConnectionError", "ConnectionResetError", "ConnectionAbortedError",
        "ConnectionRefusedError", "BrokenPipeError", "TimeoutError", "PermissionError",
        "FileNotFoundError", "InterruptedError", "BlockingIOError"].contains error.kind

def perform (socket : Socket) (action : SocketAction) : Socket × Sent :=
  match socket.gateway, action with
  | .connecting, .send _ =>
      (socket, refused
        "\"websocket.accept\", \"websocket.close\" or \"websocket.http.response.start\"" action)
  | .connecting, _ => { socket with gateway := stateAfter action }.transmit action false
  | .connected, .accept => (socket, refused "\"websocket.send\" or \"websocket.close\"" action)
  | .connected, _ => { socket with gateway := stateAfter action }.transmit action true
  | .disconnected, _ =>
      (socket, .failed (runtimeError "Cannot call \"send\" once a close message has been sent."))

def closeOnce (socket : Socket) (code : Nat) : Socket × Sent :=
  if socket.gateway = .disconnected then (socket, .done) else socket.perform (.close code)

end Socket

end LedgerFeed
