import LedgerFeed.Value.Access

namespace LedgerFeed

def haltState : Int := 1

def faultState : Int := 2

def hasFault (state : Int) : Bool := state / 2 % 2 = 1

/-- The machine state that a whole number stands for. A negative one is completed to its bits: to
three of them if it fits there, else to as many as it has. -/
def machineState (n : Int) : Int :=
  if 0 ≤ n then n
  else if -8 ≤ n then n + 8
  else n + Nat.pow 2 (n.natAbs.log2 + 1)

structure Record where
  txid : Value
  state : Value
  notifications : Value

def Value.record (value : Value) (wanted : String) : Except Fault Record :=
  match value.slot.cell? value.heap with
  | some (.record txid state notifications) =>
      .ok ⟨value.withSlot txid, value.withSlot state, value.withSlot notifications⟩
  | _ => .error (.noAttribute value.typeName wanted)

def Record.faulted (record : Record) : Except Fault Bool :=
  match record.state.slot.int? with
  | some n => .ok (hasFault n)
  | none => .error (.flagOperand record.state.typeName)

def createRecord (heap : Heap) (txid notifications faulted : Slot) :
    Except Fault (Heap × Cell) := do
  let state := if faulted.isTrue heap then faultState else haltState
  let items ← if notifications.isTrue heap then notifications.items heap else pure []
  let (heap, list) := heap.alloc (.list items)
  pure (heap, .record txid (.state state) list)

end LedgerFeed
