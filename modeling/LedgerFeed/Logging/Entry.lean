import LedgerFeed.Value.Basic

namespace LedgerFeed

inductive Level
  | debug
  | info
  | warning
  | error
  | critical
  deriving DecidableEq, Repr

namespace Level

def all : List Level := [.debug, .info, .warning, .error, .critical]

def word : Level → String
  | .debug => "debug"
  | .info => "info"
  | .warning => "warning"
  | .error => "error"
  | .critical => "critical"

def name : Level → String
  | .debug => "DEBUG"
  | .info => "INFO"
  | .warning => "WARNING"
  | .error => "ERROR"
  | .critical => "CRITICAL"

def severity : Level → Nat
  | .debug => 10
  | .info => 20
  | .warning => 30
  | .error => 40
  | .critical => 50

end Level

structure LogEntry where
  level : Level
  component : Option String
  event : String
  fields : List (String × Value)

abbrev Logs := List LogEntry

namespace LogEntry

def insertField (field : String × Value) : List (String × Value) → List (String × Value)
  | [] => [field]
  | first :: rest =>
      if field.1 < first.1 then field :: first :: rest else first :: insertField field rest

def sortedFields (entry : LogEntry) : List (String × Value) :=
  entry.fields.foldl (fun sorted field => insertField field sorted) []

end LogEntry

namespace Value

def ofInt (n : Int) : Value := ofSlot (.int n)

def ofNat (n : Nat) : Value := ofSlot (.int n)

def ofBool (b : Bool) : Value := ofSlot (.bool b)

def ofFloat (x : Binary64) : Value := ofSlot (.float x)

def ofText? (s : Option String) : Value := (s.map fun (s : String) => text s).getD null

end Value

def entry (component : String) (level : Level) (event : String) (fields : List (String × Value)) :
    LogEntry :=
  ⟨level, some component, event, fields⟩

end LedgerFeed
