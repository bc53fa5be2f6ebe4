import LedgerFeed.Settings.Basic

namespace LedgerFeed

structure Reading where
  serial : Nat
  settings : Settings

structure CurrentSettings where
  current : Option Reading
  count : Nat

namespace CurrentSettings

def initial : CurrentSettings := ⟨none, 0⟩

def put (state : CurrentSettings) (settings : Settings) : CurrentSettings × Reading :=
  let reading : Reading := ⟨state.count, settings⟩
  (⟨some reading, state.count + 1⟩, reading)

def reset (state : CurrentSettings) : CurrentSettings := { state with current := none }

def reload (state : CurrentSettings) (environment : List (String × Text)) :
    Except Issues (CurrentSettings × Reading) :=
  (Settings.read ⟨[], environment⟩).map state.put

def get (state : CurrentSettings) (environment : List (String × Text)) :
    Except Issues (CurrentSettings × Reading) :=
  match state.current with
  | some reading => .ok (state, reading)
  | none => state.reload environment

end CurrentSettings

def Reading.field (reading : Reading) (name : String) : Except Fault Value :=
  match reading.settings.fields.lookup name with
  | some value => .ok value
  | none => .error (.noAttribute "Settings" name)

end LedgerFeed
