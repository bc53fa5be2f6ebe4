import LedgerFeed.Bus.Memory

namespace LedgerFeed

inductive OnCancel
  | nothing
  | raises (error : Raised)
  | yields (parts : List Value)

inductive ScriptItem
  | message (parts : List Value)
  | failure (error : Raised)
  | wait (length : Rat) (onCancel : OnCancel)

inductive ScriptedSession
  | stream (items : List ScriptItem)
  | refused (error : Raised)

inductive Stream
  | unopened (channels : Value)
  | subscribed (serial : Nat)
  | finished
  | scripted (items : List ScriptItem)
  | silent

def messageOf (parts : List Value) : Except Fault (Value × Value) :=
  match parts with
  | [channel, payload] => .ok (channel, payload)
  | [] | [_] => .error (.tooFewParts parts.length)
  | _ => .error .tooManyParts

end LedgerFeed
