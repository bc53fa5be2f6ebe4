import LedgerFeed.Gateway.Broadcaster

namespace LedgerFeed

structure ClientChange (α : Type) where
  isOpen : Option Bool
  delay : Option Rat
  failure : Option (Option Raised)
  closeFailure : Option (Option Raised)
  onSend : Option (Option α)
  onClose : Option (Option α)

inductive ClientStep
  | register (client : ConnectionName) (channels : Value)
  | unregister (client : ConnectionName)
  | broadcast (channel data : Value)
  | closeAll
  | change (client : ConnectionName) (change : ClientChange ClientStep)
  | gather (steps : List (Rat × ClientStep))
  deriving Inhabited

structure ScriptedClient where
  name : String
  isOpen : Bool
  delay : Rat
  failure : Option Raised
  closeFailure : Option Raised
  onSend : Option ClientStep
  onClose : Option ClientStep
  frames : List Text
  closes : Nat

namespace ScriptedClient

def apply (client : ScriptedClient) (change : ClientChange ClientStep) : ScriptedClient :=
  { client with
    isOpen := change.isOpen.getD client.isOpen
    delay := change.delay.getD client.delay
    failure := change.failure.getD client.failure
    closeFailure := change.closeFailure.getD client.closeFailure
    onSend := change.onSend.getD client.onSend
    onClose := change.onClose.getD client.onClose }

def take (client : ScriptedClient) (frame : Text) : ScriptedClient × Option Raised :=
  match client.failure with
  | some error => (client, some error)
  | none => ({ client with frames := client.frames ++ [frame] }, none)

def close (client : ScriptedClient) : ScriptedClient :=
  { client with closes := client.closes + 1, isOpen := false, onClose := none }

end ScriptedClient

end LedgerFeed
