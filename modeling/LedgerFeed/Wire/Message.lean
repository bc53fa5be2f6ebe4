import LedgerFeed.Ledger.Parameter
import LedgerFeed.Ledger.Block
import LedgerFeed.Json.Writer

namespace LedgerFeed

def blockConfirmations : Int := 1

structure BlockMessage where
  heap : Heap
  fields : List (Slot × Slot)
  confirmations : Slot

namespace BlockMessage

def entries (message : BlockMessage) : List (Slot × Slot) :=
  insertEntry message.heap message.fields (.text "confirmations") message.confirmations

def toValue (message : BlockMessage) : Value :=
  let (heap, slot) := message.heap.alloc (.dict message.entries)
  ⟨heap, slot⟩

def json (message : BlockMessage) : Except FormError Json :=
  formEntries message.heap message.entries

def text (message : BlockMessage) : Except FormError Text := message.json.map Json.compact

def field? (message : BlockMessage) (name : Text) : Option Value :=
  (message.fields.find? fun (key, _) => key.text? = some name).map fun (_, item) =>
    ⟨message.heap, item⟩

end BlockMessage

/-- The announcement of a block. Confirmations among its own fields are dropped. -/
def encodeBlock (block : Value) : Except Fault BlockMessage := do
  let (heap, native) ← nativeFields block
  match copyFault? heap [] (native.flatMap fun (key, item) => [item, key]) with
  | some what => .error (.notCopyable what)
  | none =>
      let fields := native.filter fun (key, _) => key.text? ≠ some (.ofString "confirmations")
      let message : BlockMessage := ⟨heap, fields, .int blockConfirmations⟩
      match message.json with
      | .ok _ => .ok message
      | .error error => .error (.encoding (.blockForm error))

inductive Call
  | rendered (items : List Rendered)
  | given (value : Value)

def Call.json : Call → Except FormError Json
  | .rendered items => .ok (.array (Rendered.jsonItems items))
  | .given value => value.form

def Call.place (heap : Heap) : Call → Heap × Slot
  | .rendered items =>
      let (heap, slots) := Rendered.placeItems heap items
      heap.alloc (.list slots)
  | .given value => (value.heap, value.slot)

def nonempty? (slot : Slot) : Option Word := slot.word?.filter fun w => !w.content.isEmpty

structure NotificationMessage where
  contract : Word
  txid : Word
  call : Call

namespace NotificationMessage

def make (contract txid : Slot) (call : Call) : Except Fault NotificationMessage :=
  match nonempty? contract, nonempty? txid with
  | some c, some t => .ok ⟨c, t, call⟩
  | none, _ => .error (.missing "contract")
  | some _, none => .error (.missing "txid")

def json (message : NotificationMessage) : Except FormError Json := do
  let call ← message.call.json
  pure (.object
    [("contract", .string message.contract.content), ("txid", .string message.txid.content),
     ("call", call)])

def text (message : NotificationMessage) : Except FormError Text := message.json.map Json.compact

def toValue (message : NotificationMessage) : Value :=
  let (heap, call) := message.call.place Heap.empty
  let (heap, slot) := heap.alloc (.dict
    [(.text "contract", message.contract.slot), (.text "txid", message.txid.slot),
     (.text "call", call)])
  ⟨heap, slot⟩

end NotificationMessage

def encodeNotification (contract txid state : Value) : Except Fault NotificationMessage :=
  match nonempty? contract.slot, nonempty? txid.slot with
  | some c, some t => do
      let items ← state.items
      let call ← items.mapM Value.render
      pure ⟨c, t, .rendered call⟩
  | none, _ => .error (.encoding .emptyContract)
  | some _, none => .error (.encoding .emptyTransaction)

structure Envelope where
  channel : Channel
  data : Value

namespace Envelope

def wrap (channel : Channel) (data : Json) : Json :=
  .object [("type", .string channel.name), ("data", data)]

def json (envelope : Envelope) : Except FormError Json :=
  envelope.data.form.map (wrap envelope.channel)

def text (envelope : Envelope) : Except FormError Text := envelope.json.map Json.compact

def toValue (envelope : Envelope) : Value :=
  let (heap, slot) := envelope.data.heap.alloc (.dict
    [(.text "type", .text envelope.channel.name), (.text "data", envelope.data.slot)])
  ⟨heap, slot⟩

end Envelope

end LedgerFeed
