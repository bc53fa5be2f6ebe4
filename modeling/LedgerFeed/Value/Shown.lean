import LedgerFeed.Value.Basic
import LedgerFeed.Number.Text
import LedgerFeed.Characters.Quoted

namespace LedgerFeed

def stateFlags : List (Nat × String) := [(1, "HALT"), (2, "FAULT"), (4, "BREAK")]

def stateText (n : Int) : String :=
  let code := n.toNat
  let named := stateFlags.filter fun (flag, _) => code / flag % 2 = 1
  let rest := code / 8 * 8
  let parts := named.map (·.2) ++ (if rest = 0 then [] else [intText rest])
  if code = 0 then "<VMState.NONE: 0>"
  else if named.isEmpty then s!"<VMState: {intText n}>"
  else
    let names := String.intercalate "|" parts
    s!"<VMState.{names}: {intText n}>"

def commaSeparated (parts : List String) : String := String.intercalate ", " parts

def tupleText (parts : List String) : String :=
  match parts with
  | [only] => s!"({only},)"
  | _ => s!"({commaSeparated parts})"

def bufferText : Buffer → List UInt8 → String
  | .bytes, octets => String.ofList (quoteOctets octets)
  | .bytearray, octets => s!"bytearray({String.ofList (quoteMutableOctets octets)})"
  | .memoryview, _ => "<memory>"

def fieldsText (kind : String) (fields : List (String × String)) : String :=
  let parts := commaSeparated (fields.map fun (name, part) => s!"{name}={part}")
  s!"{kind}({parts})"

def shown (heap : Heap) (path : List Identity) : Slot → String
  | .null => "None"
  | .bool true => "True"
  | .bool false => "False"
  | .int n => intText n
  | .float x => floatText x
  | .text t => quoted t
  | .channel c => s!"<Channel.{c.member}: {quoted c.name}>"
  | .state n => stateText n
  | .buffer kind octets => bufferText kind octets
  | .object identity =>
      if bound : identity < heap.size then
        if fresh : identity ∈ path then
          match heap[identity] with
          | .list _ => "[...]"
          | .tuple _ => "(...)"
          | .dict _ | .mapping _ => "\x7b...\x7d"
          | _ => "..."
        else
          let inner := shown heap (identity :: path)
          let entry := fun ((key, item) : Slot × Slot) =>
            shown heap (identity :: path) key ++ ": " ++ shown heap (identity :: path) item
          match heap[identity] with
          | .list items => s!"[{commaSeparated (items.map inner)}]"
          | .tuple items => tupleText (items.map inner)
          | .set [] => "set()"
          | .set items => "\x7b" ++ commaSeparated (items.map inner) ++ "\x7d"
          | .dict entries => "\x7b" ++ commaSeparated (entries.map entry) ++ "\x7d"
          | .mapping entries =>
              "mappingproxy(\x7b" ++ commaSeparated (entries.map entry) ++ "\x7d)"
          | .parameter kind value =>
              fieldsText "ContractParameter" [("type", inner kind), ("value", inner value)]
          | .notification contract state =>
              fieldsText "Notification" [("contract", inner contract), ("state", inner state)]
          | .record txid state notifications =>
              let fields := [("txid", txid), ("state", state), ("notifications", notifications)]
              fieldsText "ExecutionRecord" (fields.map fun (name, part) => (name, inner part))
          | .block fields =>
              fieldsText "Block" (fields.named.map fun (name, part) => (name, inner part))
          | cell => s!"<{cell.typeName}>"
      else
        "<object>"
termination_by (heap.unseen path).length
decreasing_by all_goals exact Heap.unseen_cons_lt bound fresh

def Value.shown (value : Value) : String := LedgerFeed.shown value.heap [] value.slot

/-- The slots whose texts are in the text of an object. An object that renders itself as a block is
shown by the name of its kind alone. -/
def Cell.shownParts : Cell → List Slot
  | .foreign _ => []
  | cell => cell.parts

def holdsLongInt (heap : Heap) (path : List Identity) : Slot → Bool
  | .int n | .state n => exceedsDigitLimit n
  | .object identity =>
      if bound : identity < heap.size then
        if fresh : identity ∈ path then false
        else heap[identity].shownParts.any fun part => holdsLongInt heap (identity :: path) part
      else
        false
  | _ => false
termination_by (heap.unseen path).length
decreasing_by exact Heap.unseen_cons_lt bound fresh

def Value.holdsLongInt (value : Value) : Bool := LedgerFeed.holdsLongInt value.heap [] value.slot

end LedgerFeed
