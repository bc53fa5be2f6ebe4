import LedgerFeed.Fault
import LedgerFeed.Logging.Entry

/-!
# Commit hooks

The ledger keeps a list of hooks and calls each of them once per commit, on a snapshot of the list.
A hook may call back while it runs: a `Script` is what it does, a finite tree of calls on the same
host, and how it ends. `notifyEach` and `closeEach` run the host's two rounds against such scripts
and leave a trace of what happened. In the trace a notification is known by its number, for rounds
that hooks begin lie within the round that calls them.
-/

namespace LedgerFeed

/-- A hook. Hooks of one group are equal to each other; one without a group equals only itself. -/
structure Hook where
  identity : Nat
  className : String
  group : Option Nat
  closable : Bool
  deriving DecidableEq, Repr

def Hook.same (a b : Hook) : Bool :=
  a.identity = b.identity || (a.group.isSome && a.group = b.group)

structure HookRound where
  number : Nat
  block : Value
  records : Value

structure HookCall where
  round : HookRound
  hook : Hook

instance : Coe HookCall Hook := ⟨HookCall.hook⟩

inductive HookEvent
  | installed (hook : Hook)
  | uninstalled (hook : Hook)
  | began (round : HookRound) (hooks : List Hook)
  | called (call : HookCall)
  | ended (round : HookRound)
  | closing (hooks : List Hook)
  | closed (hook : Hook)
  | logged (entry : LogEntry)

def HookEvent.rounds (trace : List HookEvent) : Nat :=
  trace.countP fun event => event matches .began _ _

structure HookHost where
  hooks : List Hook
  trace : List HookEvent

namespace HookHost

def component : String := "commit_hook_host"

def empty : HookHost := ⟨[], []⟩

def record (host : HookHost) (event : HookEvent) : HookHost :=
  { host with trace := host.trace ++ [event] }

def log (host : HookHost) (level : Level) (event : String) (fields : List (String × Value)) :
    HookHost :=
  host.record (.logged (entry component level event fields))

def install (host : HookHost) (hook : Hook) : HookHost :=
  if host.hooks.any (·.same hook) then
    host
  else
    ({ host with hooks := host.hooks ++ [hook] }.record (.installed hook)).log .info
      "commit_hook_installed" [("hook", .text hook.className)]

def uninstall (host : HookHost) (hook : Hook) : HookHost × Bool :=
  match host.hooks.find? (·.same hook) with
  | none => (host, false)
  | some entry =>
      (({ host with hooks := host.hooks.eraseP (·.same hook) }.record (.uninstalled entry)).log .info
        "commit_hook_uninstalled" [("hook", .text hook.className)], true)

def throwsFromCommit (_error : Fault) : Bool := false

/-! ## Scripts -/

mutual

inductive Act
  | install (hook : Hook)
  | uninstall (hook : Hook)
  | notify (block records : Value) (scripts : List Script)
  | shutdown (scripts : List Script)

/-- What a hook does when called: its own calls, then how it ends. -/
inductive Script
  | mk (acts : List Act) (outcome : Option Fault)

end

def Script.quiet : Script := .mk [] none

def settleCall (host : HookHost) (hook : Hook) : Option Fault → HookHost × Option Fault
  | none => (host, none)
  | some fault =>
      if fault.isOrdinary && !throwsFromCommit fault then
        (host.log .error "commit_hook_failed"
          [("hook", .text hook.className), ("error", .text fault.message),
           ("error_type", .text fault.kind)], none)
      else
        (host, some fault)

def settleClose (host : HookHost) (hook : Hook) : Option Fault → HookHost × Option Fault
  | none => (host, none)
  | some fault =>
      if fault.isOrdinary then
        (host.log .warning "commit_hook_close_failed"
          [("hook", .text hook.className), ("error", .text fault.message)], none)
      else
        (host, some fault)

/-! ## Rounds without scripts -/

def notifyQuietly (host : HookHost) (round : HookRound) (hooks : List Hook) : HookHost :=
  hooks.foldl (fun host hook => host.record (.called ⟨round, hook⟩)) host

def closeQuietly (host : HookHost) (hooks : List Hook) : HookHost :=
  hooks.foldl (fun host hook =>
    let host := (host.uninstall hook).1
    if hook.closable then host.record (.closed hook) else host) host

/-! ## Rounds that follow scripts -/

def nextRound (host : HookHost) (block records : Value) : HookRound :=
  ⟨HookEvent.rounds host.trace, block, records⟩

def begin (host : HookHost) (round : HookRound) : HookHost :=
  host.record (.began round host.hooks)

def beginClosing (host : HookHost) : HookHost := host.record (.closing host.hooks)

def finish (round : HookRound) : HookHost × Option Fault → HookHost × Option Fault
  | (host, none) => (host.record (.ended round), none)
  | (host, some fault) => (host, some fault)

mutual

def perform (host : HookHost) : Act → HookHost × Option Fault
  | .install hook => (host.install hook, none)
  | .uninstall hook => ((host.uninstall hook).1, none)
  | .notify block records scripts =>
      let round := host.nextRound block records
      finish round (notifyEach (host.begin round) round host.hooks scripts)
  | .shutdown scripts => closeEach host.beginClosing host.hooks scripts

def performAll (host : HookHost) : List Act → HookHost × Option Fault
  | [] => (host, none)
  | act :: rest =>
      match perform host act with
      | (host, some fault) => (host, some fault)
      | (host, none) => performAll host rest

def follow (host : HookHost) : Script → HookHost × Option Fault
  | .mk acts outcome =>
      match performAll host acts with
      | (host, some fault) => (host, some fault)
      | (host, none) => (host, outcome)

/-- Calls the hooks one after the other, each following the next script. -/
def notifyEach (host : HookHost) (round : HookRound) (hooks : List Hook) :
    List Script → HookHost × Option Fault
  | [] => (notifyQuietly host round hooks, none)
  | script :: scripts =>
      match hooks with
      | [] => (host, none)
      | hook :: rest =>
          let (host, outcome) := follow (host.record (.called ⟨round, hook⟩)) script
          match settleCall host hook outcome with
          | (host, some fault) => (host, some fault)
          | (host, none) => notifyEach host round rest scripts

def closeEach (host : HookHost) (hooks : List Hook) : List Script → HookHost × Option Fault
  | [] => (closeQuietly host hooks, none)
  | script :: scripts =>
      match hooks with
      | [] => (host, none)
      | hook :: rest =>
          let host := (host.uninstall hook).1
          if hook.closable then
            let (host, outcome) := follow (host.record (.closed hook)) script
            match settleClose host hook outcome with
            | (host, some fault) => (host, some fault)
            | (host, none) => closeEach host rest scripts
          else
            closeEach host rest scripts

end

def notify (host : HookHost) (scripts : List Script) (block records : Value := .null) :
    HookHost × Option Fault :=
  perform host (.notify block records scripts)

def shutdown (host : HookHost) (scripts : List Script) : HookHost × Option Fault :=
  perform host (.shutdown scripts)

end HookHost

end LedgerFeed
