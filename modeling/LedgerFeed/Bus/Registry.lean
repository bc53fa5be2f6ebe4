import LedgerFeed.Bus.Memory
import LedgerFeed.Bus.Redis
import LedgerFeed.Ledger.Publisher

namespace LedgerFeed

structure BusRegistry where
  buses : List MemoryBus
  current : Option Nat

inductive BusHandle
  | memory (bus : Nat)
  | redisPublisher (options : List (String × Value))
  | redisSubscriber (options : List (String × Value))

namespace BusRegistry

def empty : BusRegistry := ⟨[], none⟩

def isClosed (registry : BusRegistry) (bus : Nat) : Bool :=
  match registry.buses[bus]? with
  | some bus => bus.closed
  | none => true

def make (registry : BusRegistry) : BusRegistry × Nat :=
  (⟨registry.buses ++ [.empty], some registry.buses.length⟩, registry.buses.length)

def get (registry : BusRegistry) : BusRegistry × Nat :=
  match registry.current with
  | none => registry.make
  | some bus => if registry.isClosed bus then registry.make else (registry, bus)

def close (registry : BusRegistry) (bus : Nat) : BusRegistry :=
  { registry with buses := registry.buses.modify bus fun bus => bus.close.1 }

def reset (registry : BusRegistry) : BusRegistry :=
  match registry.current with
  | none => registry
  | some bus => { registry.close bus with current := none }

def createPublisher (registry : BusRegistry) (settings : Settings) :
    BusRegistry × BusHandle × Logs :=
  match settings.backend with
  | .memory =>
      let (registry, bus) := registry.get
      (registry, .memory bus, [])
  | .redis =>
      (registry, .redisPublisher (Redis.publisherOptions settings),
        [Redis.publisherCreated settings])

def createSubscriber (registry : BusRegistry) (settings : Settings) :
    Except Fault (BusRegistry × BusHandle) :=
  match settings.backend with
  | .memory =>
      let (registry, bus) := registry.get
      .ok (registry, .memory bus)
  | .redis => (Redis.subscriberOptions settings).map (registry, .redisSubscriber ·)

def createCommitPublisher (registry : BusRegistry) (settings : Settings) :
    BusRegistry × BusHandle × Logs :=
  let (registry, handle, logs) := registry.createPublisher settings
  (registry, handle, settings.busEntry (some Publisher.component) :: logs)

def closeHandle (registry : BusRegistry) : BusHandle → BusRegistry × Logs
  | .memory bus => (registry.close bus, [])
  | .redisPublisher _ => (registry, (Redis.close (.ok .null)).logs)
  | .redisSubscriber _ => (registry, (Redis.closeClient none).logs)

end BusRegistry

end LedgerFeed
