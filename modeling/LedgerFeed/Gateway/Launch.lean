import LedgerFeed.Settings.Basic
import LedgerFeed.Logging.Line
import LedgerFeed.Relay.Basic

namespace LedgerFeed.Launch

def title : String := "neo-pubsub Relay Gateway"

def version : String := "1.0.0"

def relay (settings : Settings) : Relay :=
  .idle Channel.all (.float settings.reconnectDelay) (.float settings.maxReconnectDelay)

def options (settings : Settings) : List (String × Value) :=
  [("host", .text settings.websocketHost), ("port", .ofInt settings.websocketPort),
   ("log_level", .text (lowerText settings.logLevel.name))]

def line (settings : Settings) : Except Fault Text := do
  let members ← (options settings).mapM fun (name, value) => do
    pure (.ofString name, ← lineForm value.heap [] value.slot)
  let heading : List (Text × Json) := [("title", .string title), ("version", .string version)]
  pure (Json.compact (.object (heading ++ members)))

def complaints (issues : Issues) : List String :=
  issues.map fun (field, issue) => String.intercalate ": " [field, issue.message]

end LedgerFeed.Launch
