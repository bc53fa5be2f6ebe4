import LedgerFeed.Value.Order
import LedgerFeed.Logging.Entry

namespace LedgerFeed

inductive Posting
  | message (channel payload : Value)
  | ended

structure Subscription where
  serial : Nat
  channels : List Value
  reachable : Bool
  queue : List Posting

namespace Subscription

def wants (subscription : Subscription) (channel : Value) : Bool :=
  subscription.channels.any fun wanted => wanted.sameAs channel

def put (subscription : Subscription) (posting : Posting) : Subscription :=
  { subscription with queue := subscription.queue ++ [posting] }

end Subscription

structure MemoryBus where
  subscriptions : List Subscription
  posted : List (Nat × Posting)
  closed : Bool
  started : Nat

namespace MemoryBus

def component : String := "memory_bus"

def empty : MemoryBus := ⟨[], [], false, 0⟩

def subscriberCount (bus : MemoryBus) : Nat := bus.subscriptions.length

/-- A channel has to be a key to be looked for. A set is looked for as what it holds. -/
def checkWanted (channel : Value) : Except Fault Unit :=
  match channel.slot.cell? channel.heap with
  | some (.set _) => .ok ()
  | _ => channel.checkKey

def post (bus : MemoryBus) (channel payload : Value) : MemoryBus × Nat :=
  let reached := bus.subscriptions.filter fun s => s.wants channel && s.reachable
  let kept := bus.subscriptions.filter fun s => !(s.wants channel) || s.reachable
  ({ bus with
      subscriptions := kept
      posted := bus.posted ++ reached.map fun s => (s.serial, .message channel payload) },
    reached.length)

def publish (bus : MemoryBus) (channel payload : Value) : MemoryBus × Except Fault Nat :=
  if bus.closed then
    (bus, .error (.bus (.closed (some channel))))
  else
    match if bus.subscriptions.isEmpty then .ok () else checkWanted channel with
    | .error fault => (bus, .error fault)
    | .ok () =>
        let (bus, count) := bus.post channel payload
        (bus, .ok count)

def channelSet (channels : Value) : Except Fault (List Slot) := do
  setOf channels.heap (← channels.slot.items channels.heap)

def subscribedEntry (heap : Heap) (channels : List Slot) : Except Fault LogEntry := do
  let (heap, slot) := heap.alloc (.list (← sortSlots heap channels))
  pure (entry component .debug "memory_bus_subscribed" [("channels", ⟨heap, slot⟩)])

structure Started where
  bus : MemoryBus
  result : Except Fault Nat
  logs : Logs

def subscribe (bus : MemoryBus) (channels : List Value) (reachable : Bool) : MemoryBus × Nat :=
  ({ bus with
      subscriptions := bus.subscriptions ++ [⟨bus.started, channels, reachable, []⟩]
      started := bus.started + 1 },
    bus.started)

/-- Starts to listen. The subscription is added before it is reported, so it stays if the report
fails. -/
def listen (bus : MemoryBus) (channels : Value) (reachable : Bool) : Started :=
  match channelSet channels with
  | .error fault => ⟨bus, .error fault, []⟩
  | .ok wanted =>
      if bus.closed then
        ⟨bus, .error (.bus (.closed none)), []⟩
      else
        let (bus, serial) := bus.subscribe (wanted.map channels.withSlot) reachable
        match subscribedEntry channels.heap wanted with
        | .ok entry => ⟨bus, .ok serial, [entry]⟩
        | .error fault => ⟨bus, .error fault, []⟩

def find? (bus : MemoryBus) (serial : Nat) : Option Subscription :=
  bus.subscriptions.find? fun s => s.serial = serial

def update (bus : MemoryBus) (serial : Nat) (change : Subscription → Subscription) : MemoryBus :=
  { bus with
    subscriptions := bus.subscriptions.map fun s => if s.serial = serial then change s else s }

def deliver (bus : MemoryBus) : MemoryBus :=
  match bus.posted with
  | [] => bus
  | (serial, posting) :: rest => { bus with posted := rest }.update serial (·.put posting)

def receive (bus : MemoryBus) (serial : Nat) : MemoryBus × Option Posting :=
  match (bus.find? serial).bind fun s => s.queue.head? with
  | some posting => (bus.update serial fun s => { s with queue := s.queue.tail }, some posting)
  | none => (bus, none)

def discard (bus : MemoryBus) (serial : Nat) : MemoryBus :=
  { bus with subscriptions := bus.subscriptions.filter fun s => s.serial ≠ serial }

def close (bus : MemoryBus) : MemoryBus × Logs :=
  if bus.closed then
    (bus, [])
  else
    let reached := bus.subscriptions.filter (·.reachable)
    ({ bus with closed := true, posted := bus.posted ++ reached.map fun s => (s.serial, .ended) },
      [entry component .info "memory_bus_closed"
        [("subscribers", .ofNat bus.subscriptions.length)]])

end MemoryBus

end LedgerFeed
