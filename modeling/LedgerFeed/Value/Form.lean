import LedgerFeed.Value.Basic
import LedgerFeed.Json.Basic
import LedgerFeed.Number.Text

namespace LedgerFeed

inductive FormError
  | notSerializable (type : String)
  | badName (type : String)
  | circular
  | tooManyDigits
  deriving DecidableEq, Repr

def digitLimitMessage : String :=
  digitLimitText ++ "; use sys.set_int_max_str_digits() to increase the limit"

def FormError.message : FormError → String
  | .notSerializable type => s!"Object of type {type} is not JSON serializable"
  | .badName type => s!"keys must be str, int, float, bool or None, not {type}"
  | .circular => "Circular reference detected"
  | .tooManyDigits => digitLimitMessage

def FormError.kind : FormError → String
  | .notSerializable _ => "TypeError"
  | .badName _ => "TypeError"
  | .circular => "ValueError"
  | .tooManyDigits => "ValueError"

def formInt (n : Int) : Except FormError Json :=
  if exceedsDigitLimit n then .error .tooManyDigits else .ok (.int n)

def memberName (heap : Heap) : Slot → Except FormError Text
  | .text t => .ok t
  | .channel c => .ok c.name
  | .null => .ok "null"
  | .bool true => .ok "true"
  | .bool false => .ok "false"
  | .int n => if exceedsDigitLimit n then .error .tooManyDigits else .ok (intText n)
  | .state n => if exceedsDigitLimit n then .error .tooManyDigits else .ok (intText n)
  | .float x => .ok (.ofChars (FloatLayout.json.write x))
  | key => .error (.badName (key.typeName heap))

/-- The JSON form of a slot that is reached through the objects of `path`. -/
def form (heap : Heap) (path : List Identity) : Slot → Except FormError Json
  | .null => .ok .null
  | .bool b => .ok (.bool b)
  | .int n => formInt n
  | .state n => formInt n
  | .float x => .ok (.float x)
  | .text t => .ok (.string t)
  | .channel c => .ok (.string c.name)
  | .buffer kind _ => .error (.notSerializable kind.typeName)
  | .object identity =>
      if bound : identity < heap.size then
        match heap[identity] with
        | .list items | .tuple items =>
            if fresh : identity ∈ path then
              .error .circular
            else do
              let forms ← items.mapM fun item => form heap (identity :: path) item
              pure (.array forms)
        | .dict entries =>
            if fresh : identity ∈ path then
              .error .circular
            else do
              let members ← entries.mapM fun (key, item) => do
                let name ← memberName heap key
                let value ← form heap (identity :: path) item
                pure (name, value)
              pure (.object members)
        | cell => .error (.notSerializable cell.typeName)
      else
        .error (.notSerializable "object")
termination_by (heap.unseen path).length
decreasing_by all_goals exact Heap.unseen_cons_lt bound fresh

def Value.form (value : Value) : Except FormError Json := LedgerFeed.form value.heap [] value.slot

def formEntries (heap : Heap) (entries : List (Slot × Slot)) : Except FormError Json := do
  let members ← entries.mapM fun (key, item) => do
    let name ← memberName heap key
    let value ← form heap [] item
    pure (name, value)
  pure (.object members)

mutual

def Json.place (heap : Heap) : Json → Heap × Slot
  | .null => (heap, .null)
  | .bool b => (heap, .bool b)
  | .int n => (heap, .int n)
  | .float x => (heap, .float x)
  | .string t => (heap, .text t)
  | .array items =>
      let (heap, slots) := placeItems heap items
      heap.alloc (.list slots)
  | .object members =>
      let (heap, entries) := placeMembers heap members
      heap.alloc (.dict entries)

def Json.placeItems (heap : Heap) : List Json → Heap × List Slot
  | [] => (heap, [])
  | item :: rest =>
      let (heap, slot) := item.place heap
      let (heap, slots) := placeItems heap rest
      (heap, slot :: slots)

def Json.placeMembers (heap : Heap) : List (Text × Json) → Heap × List (Slot × Slot)
  | [] => (heap, [])
  | (name, value) :: rest =>
      let (heap, slot) := value.place heap
      let (heap, entries) := placeMembers heap rest
      (heap, (.text name, slot) :: entries)

end

def Json.toValue (json : Json) : Value :=
  let (heap, slot) := json.place Heap.empty
  ⟨heap, slot⟩

end LedgerFeed
