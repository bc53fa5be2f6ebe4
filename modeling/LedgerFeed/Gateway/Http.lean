import LedgerFeed.Gateway.Broadcaster
import LedgerFeed.Relay.Lifecycle
import LedgerFeed.Json.Writer

namespace LedgerFeed

def Relay.stats (relay : Relay) (isRunning : Bool) : Json :=
  .object [("running", .bool isRunning),
    ("channels", .array (relay.channels.map fun channel => .string channel.name)),
    ("relayed", .int relay.relayed), ("dropped", .int relay.dropped),
    ("reconnects", .int relay.reconnects)]

def Broadcaster.stats (broadcaster : Broadcaster) : Json :=
  .object [("connected", .int broadcaster.connectionCount),
    ("connected_total", .int broadcaster.connectedTotal), ("failed", .int broadcaster.failed),
    ("broadcasts", .int broadcaster.broadcasts), ("messages_sent", .int broadcaster.messagesSent)]

namespace Http

def serviceName : String := "neo-pubsub-relay"

inductive Endpoint
  | health
  | ready
  | stats
  deriving DecidableEq, Repr

def Endpoint.path : Endpoint → String
  | .health => "/health"
  | .ready => "/ready"
  | .stats => "/stats"

def endpoint? (path : String) : Option Endpoint :=
  [Endpoint.health, .ready, .stats].find? fun endpoint => endpoint.path = path

structure Response where
  status : Nat
  body : Text
  deriving DecidableEq, Repr

def respond (status : Nat) (body : Json) : Response := ⟨status, body.compact⟩

def detail (status : Nat) (text : String) : Response :=
  respond status (.object [("detail", .string text)])

structure Status where
  relay : Option (Relay × Bool)
  broadcaster : Broadcaster

def ready (status : Status) : Response :=
  let isRunning := match status.relay with
    | some (_, isRunning) => isRunning
    | none => false
  respond (if isRunning then 200 else 503)
    (.object [("status", .string (if isRunning then "ready" else "not_ready")),
      ("relay", .string (if isRunning then "running" else "stopped")),
      ("connections", .int status.broadcaster.connectionCount)])

def stats (status : Status) : Response :=
  respond 200 (.object
    [("relay", match status.relay with
      | some (relay, isRunning) => relay.stats isRunning
      | none => .null),
     ("broadcaster", status.broadcaster.stats)])

def answer (status : Status) : Endpoint → Response
  | .health =>
      respond 200 (.object [("status", .string "healthy"), ("service", .string serviceName)])
  | .ready => ready status
  | .stats => stats status

def withoutSlashes (path : String) : String :=
  String.ofList (path.toList.reverse.dropWhile (· = '/')).reverse

def handle (status : Status) (method path : String) : Response :=
  match endpoint? path with
  | some endpoint =>
      if method = "GET" then answer status endpoint else detail 405 "Method Not Allowed"
  | none =>
      if path.endsWith "/" && (endpoint? (withoutSlashes path)).isSome then ⟨307, ""⟩
      else detail 404 "Not Found"

end Http

end LedgerFeed
