import LedgerFeed.Ledger.Hooks
import LedgerFeed.Ledger.Publisher

namespace LedgerFeed.Publisher

variable {β : Type}

def hook : Hook := ⟨0, "CommitPublisher", none, true⟩

def hosted (host : HookHost) (run : Publishing β → Except Fault Unit × Publishing β)
    (state : Publishing β) : Publishing β × HookHost.Script :=
  if host.hooks.isEmpty then
    (state, .quiet)
  else
    let (outcome, final) := run state
    (final, .mk [] (match outcome with
      | .ok _ => none
      | .error fault => some fault))

def notifyCommit (operations : BusOperations β) (host : HookHost) (block records : Value)
    (state : Publishing β) : Publishing β × HookHost × Option Fault :=
  let (final, script) := hosted host (onCommit operations block records) state
  (final, host.notify [script] block records)

def shutDown (operations : BusOperations β) (host : HookHost) (state : Publishing β) :
    Publishing β × HookHost × Option Fault :=
  let (final, script) := hosted host (close operations) state
  (final, host.shutdown [script])

end LedgerFeed.Publisher
