import LedgerFeed.Logging.Line
import LedgerFeed.Characters.Case

namespace LedgerFeed

structure LogOutlet where
  threshold : Nat
  isJson : Bool
  deriving DecidableEq, Repr

structure LogSetup where
  outlet : LogOutlet
  rootLevel : Nat
  isDone : Bool
  deriving DecidableEq, Repr

namespace LogOutlet

def initial : LogOutlet := ⟨0, false⟩

def passes (outlet : LogOutlet) (level : Level) : Bool := outlet.threshold ≤ level.severity

def lines (outlet : LogOutlet) (time : String) (entries : Logs) : Except Fault (List Text) :=
  if outlet.isJson then
    (entries.filter fun entry => outlet.passes entry.level).mapM fun entry => entry.line time
  else
    .ok []

end LogOutlet

namespace LogSetup

def initial : LogSetup := ⟨.initial, 30, false⟩

def thresholds : List (String × Nat) :=
  [("DEBUG", 10), ("INFO", 20), ("WARNING", 30), ("WARN", 30), ("ERROR", 40), ("CRITICAL", 50),
   ("FATAL", 50), ("NOTSET", 0)]

def defaultThreshold : Nat := 20

def thresholdOf (name : Text) : Nat :=
  (name.string?.bind fun s => thresholds.lookup (upperText s)).getD defaultThreshold

def quietLoggers : List String := ["httpx", "httpcore", "redis", "uvicorn.access"]

def quietLevel : Nat := 30

def readThreshold (level : Value) : Except Fault Nat :=
  match level.text?, level.slot with
  | some name, _ => .ok (thresholdOf name)
  | none, .buffer .bytes _ => .ok defaultThreshold
  | none, .buffer .bytearray _ => .error (.unhashable "bytearray")
  | none, _ => .error (.noAttribute level.typeName "upper")

def set (setup : LogSetup) (threshold : Nat) (isJson : Bool) : LogSetup :=
  { setup with outlet := ⟨threshold, isJson⟩, rootLevel := threshold, isDone := true }

def configure (setup : LogSetup) (level : Value) (isJson force : Bool) : Except Fault LogSetup :=
  if setup.isDone && !force then
    .ok setup
  else
    (readThreshold level).map fun threshold => setup.set threshold isJson

end LogSetup

end LedgerFeed
