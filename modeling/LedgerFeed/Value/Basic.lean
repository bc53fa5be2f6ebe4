import LedgerFeed.Channel
import LedgerFeed.Number.Binary64

/-!
# Values

What ledgers, buses and clients hand over is dynamic: a value is plain or it is an object. Objects
have an identity, because two places can hold the same object and an object can contain itself. A
`Heap` gives the contents of each identity, and a `Value` is a slot together with the heap it lives
in.
-/

namespace LedgerFeed

abbrev Identity := Nat

structure Raised where
  kind : String
  fromStore : Bool
  text : Option Text
  deriving DecidableEq, Repr

inductive Buffer
  | bytes
  | bytearray
  | memoryview
  deriving DecidableEq, Repr

/-- One place that holds a value: a plain one, or an object by its identity. -/
inductive Slot
  | null
  | bool (b : Bool)
  | int (n : Int)
  | float (x : Binary64)
  | text (t : Text)
  | channel (c : Channel)
  | state (n : Int)
  | buffer (kind : Buffer) (octets : List UInt8)
  | object (identity : Identity)
  deriving DecidableEq, Repr, Inhabited

structure BlockFields where
  hash : Slot
  index : Slot
  size : Slot
  version : Slot
  previousHash : Slot
  merkleRoot : Slot
  time : Slot
  nonce : Slot
  nextConsensus : Slot
  script : Slot
  transactions : Slot
  deriving Repr

def BlockFields.named (fields : BlockFields) : List (String × Slot) :=
  [("hash", fields.hash), ("index", fields.index), ("size", fields.size),
   ("version", fields.version), ("previousblockhash", fields.previousHash),
   ("merkleroot", fields.merkleRoot), ("time", fields.time), ("nonce", fields.nonce),
   ("nextconsensus", fields.nextConsensus), ("script", fields.script), ("tx", fields.transactions)]

inductive Rendering
  | returns (fields : Slot)
  | raises (error : Raised)
  | member (value : Slot)
  deriving Repr

/-- The contents of an object. -/
inductive Cell
  | plain
  | list (items : List Slot)
  | tuple (items : List Slot)
  | set (items : List Slot)
  | dict (entries : List (Slot × Slot))
  | mapping (entries : List (Slot × Slot))
  | parameter (kind value : Slot)
  | notification (contract state : Slot)
  | record (txid state notifications : Slot)
  | block (fields : BlockFields)
  | foreign (rendering : Rendering)
  deriving Repr, Inhabited

def Cell.parts : Cell → List Slot
  | .plain => []
  | .list items | .tuple items | .set items => items
  | .dict entries | .mapping entries => entries.flatMap fun (key, item) => [item, key]
  | .parameter kind value => [kind, value]
  | .notification contract state => [contract, state]
  | .record txid state notifications => [txid, state, notifications]
  | .block fields => fields.named.map (·.2)
  | .foreign (.returns fields) => [fields]
  | .foreign (.raises _) => []
  | .foreign (.member value) => [value]

abbrev Heap := Array Cell

namespace Heap

def empty : Heap := #[]

def alloc (heap : Heap) (cell : Cell) : Heap × Slot := (heap.push cell, .object heap.size)

def unseen (heap : Heap) (path : List Identity) : List Identity :=
  (List.range heap.size).filter (· ∉ path)

theorem unseen_cons (heap : Heap) (path : List Identity) (identity : Identity) :
    heap.unseen (identity :: path) = (heap.unseen path).filter (· ≠ identity) := by
  simp [unseen, List.filter_filter]

theorem unseen_cons_lt {heap : Heap} {path : List Identity} {identity : Identity}
    (bound : identity < heap.size) (fresh : identity ∉ path) :
    (heap.unseen (identity :: path)).length < (heap.unseen path).length := by
  rw [unseen_cons, List.length_filter_lt_length_iff_exists]
  exact ⟨identity, by simp [unseen, bound, fresh], by simp⟩

end Heap

/-- A slot with the objects it can reach. -/
structure Value where
  heap : Heap
  slot : Slot
  deriving Repr, Inhabited

namespace Value

def ofSlot (slot : Slot) : Value := ⟨Heap.empty, slot⟩

def null : Value := ofSlot .null

def text (t : Text) : Value := ofSlot (.text t)

def texts (items : List String) : Value :=
  let (heap, slot) := Heap.empty.alloc (.list (items.map fun (item : String) => .text item))
  ⟨heap, slot⟩

end Value

/-! ## Names of kinds -/

def Buffer.typeName : Buffer → String
  | .bytes => "bytes"
  | .bytearray => "bytearray"
  | .memoryview => "memoryview"

def Cell.typeName : Cell → String
  | .plain => "object"
  | .list _ => "list"
  | .tuple _ => "tuple"
  | .set _ => "set"
  | .dict _ => "dict"
  | .mapping _ => "mappingproxy"
  | .parameter .. => "ContractParameter"
  | .notification .. => "Notification"
  | .record .. => "ExecutionRecord"
  | .block _ => "Block"
  | .foreign (.member _) => "AttrStub"
  | .foreign _ => "BlockStub"

def Slot.typeName (heap : Heap) : Slot → String
  | .null => "NoneType"
  | .bool _ => "bool"
  | .int _ => "int"
  | .float _ => "float"
  | .text _ => "str"
  | .channel _ => "Channel"
  | .state _ => "VMState"
  | .buffer kind _ => kind.typeName
  | .object identity => ((heap[identity]?).getD .plain).typeName

def Slot.text? : Slot → Option Text
  | .text t => some t
  | .channel c => some c.name
  | _ => none

inductive Word
  | text (t : Text)
  | channel (c : Channel)
  deriving DecidableEq, Repr

namespace Word

def content : Word → Text
  | .text t => t
  | .channel c => c.name

def slot : Word → Slot
  | .text t => .text t
  | .channel c => .channel c

end Word

def Slot.word? : Slot → Option Word
  | .text t => some (.text t)
  | .channel c => some (.channel c)
  | _ => none

def Slot.int? : Slot → Option Int
  | .bool b => some (if b then 1 else 0)
  | .int n => some n
  | .state n => some n
  | _ => none

def Slot.cell? (heap : Heap) : Slot → Option Cell
  | .object identity => heap[identity]?
  | _ => none

end LedgerFeed
