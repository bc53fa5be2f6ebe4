import LedgerFeed.Rehearsal.Programs
import LedgerFeed.Ledger.Hosted

namespace LedgerFeed.Rehearsal
open LedgerFeed

structure Pipeline where
  rig : Rig
  host : HookHost
  stats : CommitStats

namespace Pipeline

def operations : BusOperations Rig where
  publish rig channel payload :=
    let (rig, result) := rig.publish (.text channel.name) (.text payload)
    (rig, result.map fun _ => ())
  close rig := (rig.closeBus, .ok ())

def hear (pipeline : Pipeline) : Pipeline :=
  let logs := pipeline.host.trace.filterMap fun event =>
    match event with
    | .logged entry => some entry
    | _ => none
  { pipeline with rig := pipeline.rig.say logs, host := { pipeline.host with trace := [] } }

def start (world : World) : Pipeline :=
  hear ⟨.start world, HookHost.empty.install Publisher.hook, .zero⟩

def publishing (pipeline : Pipeline) : Publishing Rig := ⟨pipeline.stats, pipeline.rig, []⟩

def finish (ended : Publishing Rig × HookHost × Option Fault) : Pipeline × Except Fault Unit :=
  let (final, host, fault?) := ended
  (hear ⟨final.bus.say final.logs, host, final.stats⟩,
    match fault? with
    | some fault => .error fault
    | none => .ok ())

def commit (pipeline : Pipeline) (block records : Value) : Pipeline × Except Fault Unit :=
  finish (Publisher.notifyCommit operations pipeline.host block records pipeline.publishing)

def shutdown (pipeline : Pipeline) : Pipeline × Except Fault Unit :=
  finish (Publisher.shutDown operations pipeline.host pipeline.publishing)

end Pipeline

end LedgerFeed.Rehearsal
