import LedgerFeed.Value.Order
import LedgerFeed.Logging.Entry
import LedgerFeed.Json.Writer

namespace LedgerFeed

def sortEntries (heap : Heap) (entries : List (Slot × Slot)) : Except Fault (List (Slot × Slot)) :=
  sortBy (fun a b => slotBefore heap a.1 b.1) entries

def lineForm (heap : Heap) (path : List Identity) : Slot → Except Fault Json
  | .buffer kind octets => .ok (.string (Value.shown ⟨heap, .buffer kind octets⟩))
  | .object identity =>
      if bound : identity < heap.size then
        match heap[identity] with
        | .list items | .tuple items =>
            if fresh : identity ∈ path then
              .error (.form .circular)
            else do
              let forms ← items.mapM fun item => lineForm heap (identity :: path) item
              pure (.array forms)
        | .dict entries =>
            if fresh : identity ∈ path then
              .error (.form .circular)
            else do
              let sorted ← sortEntries heap entries
              let members ← sorted.mapM fun (key, item) => do
                let name ← (memberName heap key).mapError Fault.form
                let value ← lineForm heap (identity :: path) item
                pure (name, value)
              pure (.object members)
        | _ => .ok (.string (Value.shown ⟨heap, .object identity⟩))
      else
        .ok .null
  | slot => (form heap path slot).mapError Fault.form
termination_by (heap.unseen path).length
decreasing_by all_goals exact Heap.unseen_cons_lt bound fresh

namespace LogEntry

def setField (fields : List (String × Value)) (name : String) (value : Value) :
    List (String × Value) :=
  fields.filter (fun (other, _) => other ≠ name) ++ [(name, value)]

/-- All that is said of an entry: its own fields over the component, and the event. -/
def described (entry : LogEntry) : List (String × Value) :=
  let component := match entry.component with
    | some component => [("component", .text component)]
    | none => []
  setField (entry.fields.foldl (fun fields (name, value) => setField fields name value) component)
    "event" (.text entry.event)

def captured (entry : LogEntry) : List (String × Value) :=
  sortedFields
    { entry with fields := setField entry.described "log_level" (.text entry.level.word) }

def line (entry : LogEntry) (time : String) : Except Fault Text := do
  let fields := setField (setField entry.described "level" (.text entry.level.word))
    "timestamp" (.text time)
  let members ← (sortedFields { entry with fields := fields }).mapM fun (name, value) => do
    pure (.ofString name, ← lineForm value.heap [] value.slot)
  pure (Json.write .line (.object members))

end LogEntry

end LedgerFeed
