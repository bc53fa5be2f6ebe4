import LedgerFeed.Ledger.Hooks

namespace LedgerFeed

structure ScriptedHook where
  name : String
  hook : Hook
  installs : List (Bool × Hook)
  failure : Option Raised
  closeFailure : Option Raised

namespace ScriptedHook

def onCommit (scripted : ScriptedHook) (records : Except Fault Nat) : HookHost.Script :=
  match records with
  | .error fault => .mk [] (some fault)
  | .ok _ =>
      .mk (scripted.installs.map fun (installs, hook) =>
          if installs then .install hook else .uninstall hook)
        (scripted.failure.map .raised)

def onClose (scripted : ScriptedHook) : HookHost.Script :=
  .mk [] (scripted.closeFailure.map .raised)

def scripts (all : List ScriptedHook) (script : ScriptedHook → HookHost.Script)
    (hooks : List Hook) : List HookHost.Script :=
  hooks.map fun hook =>
    match all.find? fun scripted => scripted.hook.identity = hook.identity with
    | some scripted => script scripted
    | none => .quiet

end ScriptedHook

end LedgerFeed
