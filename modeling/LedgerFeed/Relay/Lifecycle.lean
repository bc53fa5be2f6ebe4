import LedgerFeed.Relay.Loop

namespace LedgerFeed.Relay

def start (relay : Relay) (task : Nat) : Relay × Logs :=
  ({ relay with running := true, task := some task },
    [log .info "relay_started" [("channels", relay.channelNames)]])

def askToStop (relay : Relay) : Relay := { relay with running := false }

def forgetTask (relay : Relay) : Relay × Logs :=
  ({ relay with task := none }, [log .info "relay_stopped" []])

def isRunning (relay : Relay) (isDone : Nat → Bool) : Bool :=
  relay.running && match relay.task with
    | some task => !isDone task
    | none => false

end LedgerFeed.Relay
