import LedgerFeed.Ledger.Publisher

namespace LedgerFeed

structure ScriptedBus where
  script : List (Option Raised)
  failing : List (String × Raised)
  closeFailure : Option Raised
  calls : List (Channel × Text)
  closes : Nat

namespace ScriptedBus

def publish (bus : ScriptedBus) (channel : Channel) (payload : Text) :
    ScriptedBus × Except Fault Unit :=
  let called := { bus with calls := bus.calls ++ [(channel, payload)], script := bus.script.tail }
  match bus.script.head?.join with
  | some error => (called, .error (.raised error))
  | none =>
      match bus.failing.lookup channel.name with
      | some error => (called, .error (.raised error))
      | none => (called, .ok ())

def close (bus : ScriptedBus) : ScriptedBus × Except Fault Unit :=
  ({ bus with closes := bus.closes + 1 },
    match bus.closeFailure with
    | some error => .error (.raised error)
    | none => .ok ())

def operations : BusOperations ScriptedBus := ⟨publish, close⟩

end ScriptedBus

def Publishing.scripted (bus : ScriptedBus) : Publishing ScriptedBus := ⟨.zero, bus, []⟩

def Publishing.fresh (state : Publishing ScriptedBus) : Publishing ScriptedBus :=
  { state with bus := { state.bus with calls := [] }, logs := [] }

end LedgerFeed
