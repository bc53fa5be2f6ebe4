import LedgerFeed.Ledger.Record
import LedgerFeed.Characters.Hex

namespace LedgerFeed

namespace Json

def member? (json : Json) (name : Text) : Option Json :=
  match json with
  | .object members => members.lookup name
  | _ => none

def member (json : Json) (name : Text) : Json := (json.member? name).getD .null

def items : Json → List Json
  | .array items => items
  | _ => []

def content : Json → Text
  | .string t => t
  | _ => []

def text (json : Json) : String := json.content.legible

def integer : Json → Int
  | .int n => n
  | _ => 0

mutual

def weight : Json → Nat
  | .array items => itemsWeight items + 1
  | .object members => membersWeight members + 1
  | _ => 1

def itemsWeight : List Json → Nat
  | [] => 0
  | item :: rest => item.weight + itemsWeight rest

def membersWeight : List (Text × Json) → Nat
  | [] => 0
  | (_, value) :: rest => value.weight + membersWeight rest

end

end Json

namespace Notation

def octets (s : String) : List UInt8 := (readHex? (fun _ => false) s.toList).getD []

def readInt (s : String) : Int :=
  let (negative, digits) := splitSign s.toList
  match digits with
  | '0' :: 'x' :: hex => signed negative (hex.foldl (fun n c => 16 * n + (hexValue? c).getD 0) 0)
  | _ => signed negative (ofDigits digits)

def readFloat (s : String) : Binary64 := (readFloat? s.toList).getD .nan

def readRaised (json : Json) : Raised :=
  let name := (json.member "type").text
  let (fromStore, kind) :=
    if name.startsWith "redis." then (true, (name.drop 6).toString) else (false, name)
  ⟨kind, fromStore, (json.member? "message").map Json.content⟩

structure Draft where
  heap : Heap
  names : List (Int × Slot)

abbrev Reading := StateT Draft (Except Fault)

def allocate (cell : Cell) : Reading Slot := do
  let draft ← get
  let (heap, slot) := draft.heap.alloc cell
  set { draft with heap := heap }
  pure slot

def reserve (json : Json) (cell : Cell) : Reading Slot := do
  let slot ← allocate cell
  match json.member? "id" with
  | some id => modify fun draft => { draft with names := (id.integer, slot) :: draft.names }
  | none => pure ()
  pure slot

def fill (slot : Slot) (cell : Cell) : Reading Unit :=
  match slot with
  | .object identity =>
      modify fun draft => { draft with heap := draft.heap.setIfInBounds identity cell }
  | _ => pure ()

def constructorKind : String → ParameterKind
  | "string" => .string
  | "integer" => .integer
  | "boolean" => .boolean
  | "byte_array" => .byteArray
  | _ => .array

def checked (check : Heap → Except Fault α) : Reading α := do
  let draft ← get
  liftM (check draft.heap)

def tags : List String :=
  ["int", "float", "list", "tuple", "set", "dict", "mappingproxy", "bytes", "bytearray",
    "memoryview", "param", "ctor", "channel", "vmstate", "object", "notification", "record",
    "record_create", "block", "to_dict", "to_dict_raises", "to_dict_attr"]

def tagged? (json : Json) : Option (String × Json) :=
  tags.findSome? fun (tag : String) => (json.member? tag).map (tag, ·)

variable (read : Json → Reading Slot)

def readOr (json : Json) (name : Text) (default : Reading Slot) : Reading Slot :=
  match json.member? name with
  | some value => read value
  | none => default

def readEntries (json : Json) : Reading (List (Slot × Slot)) := do
  let pairs ← json.items.mapM fun pair => do
    match pair.items with
    | [key, value] => do
        let key ← read key
        let value ← read value
        pure (key, value)
    | _ => pure (.null, .null)
  checked (dictOf · pairs)

def readBlock (json : Json) : Reading Slot := do
  let field := fun (name : Text) default => readOr read json name (pure default)
  let hash ← field "hash" .null
  let index ← field "index" .null
  let size ← field "size" (.int 0)
  let version ← field "version" (.int 0)
  let previousHash ← field "previousblockhash" (.text "")
  let merkleRoot ← field "merkleroot" (.text "")
  let time ← field "time" (.int 0)
  let nonce ← field "nonce" (.text "")
  let nextConsensus ← field "nextconsensus" (.text "")
  let script ← readOr read json "script" (allocate (.dict []))
  let transactions ← readOr read json "tx" (allocate (.list []))
  allocate (.block ⟨hash, index, size, version, previousHash, merkleRoot, time, nonce,
    nextConsensus, script, transactions⟩)

def readTagged (json : Json) (tag : String) (body : Json) : Reading Slot := do
  match tag with
  | "int" => pure (.int (readInt body.text))
  | "float" => pure (.float (readFloat body.text))
  | "list" => do
      let slot ← reserve json (.list [])
      fill slot (.list (← body.items.mapM read))
      pure slot
  | "tuple" => do allocate (.tuple (← body.items.mapM read))
  | "set" => do
      let found ← body.items.mapM read
      allocate (.set (← checked (setOf · found)))
  | "dict" => do
      let slot ← reserve json (.dict [])
      fill slot (.dict (← readEntries read body))
      pure slot
  | "mappingproxy" => do allocate (.mapping (← readEntries read body))
  | "bytes" => pure (.buffer .bytes (octets body.text))
  | "bytearray" => pure (.buffer .bytearray (octets body.text))
  | "memoryview" => pure (.buffer .memoryview (octets body.text))
  | "param" => do
      let slot ← reserve json (.parameter .null .null)
      let kind ← read body
      let value ← readOr read json "value" (pure .null)
      fill slot (.parameter kind value)
      pure slot
  | "ctor" => do
      let kind := constructorKind body.text
      let slot ← reserve json (.parameter (.text kind.name) .null)
      let value ← readOr read json "value" (pure .null)
      let value ← match kind with
        | .array => do allocate (.list (← checked fun heap => value.items heap))
        | _ => pure value
      fill slot (.parameter (.text kind.name) value)
      pure slot
  | "channel" => pure (((Channel.ofName? body.text).map Slot.channel).getD .null)
  | "vmstate" => pure (.state (machineState body.integer))
  | "object" => allocate .plain
  | "notification" => do
      let contract ← readOr read body "contract" (pure .null)
      let state ← readOr read body "state" (allocate (.list []))
      allocate (.notification contract state)
  | "record" => do
      let txid ← readOr read body "txid" (pure .null)
      let state ← readOr read body "state" (pure (.state haltState))
      let notifications ← readOr read body "notifications" (allocate (.list []))
      allocate (.record txid state notifications)
  | "record_create" => do
      let txid ← readOr read body "txid" (pure .null)
      let notifications ← readOr read body "notifications" (pure .null)
      let faulted ← readOr read body "faulted" (pure (.bool false))
      let draft ← get
      let (heap, cell) ← liftM (createRecord draft.heap txid notifications faulted)
      set { draft with heap := heap }
      allocate cell
  | "block" => readBlock read body
  | "to_dict" => do allocate (.foreign (.returns (← read body)))
  | "to_dict_raises" => allocate (.foreign (.raises (readRaised body)))
  | "to_dict_attr" => do allocate (.foreign (.member (← read body)))
  | _ => pure .null

def readSlot : Nat → Json → Reading Slot
  | 0, _ => pure .null
  | rounds + 1, json =>
      match json with
      | .null => pure .null
      | .bool b => pure (.bool b)
      | .int n => pure (.int n)
      | .float x => pure (.float x)
      | .string t => pure (.text t)
      | .array items => do allocate (.list (← items.mapM (readSlot rounds)))
      | .object _ =>
          match json.member? "ref", tagged? json with
          | some name, _ => do
              let draft ← get
              pure ((draft.names.lookup name.integer).getD .null)
          | none, some (tag, body) => readTagged (readSlot rounds) json tag body
          | none, none => pure .null

/-! ## Writing -/

def writeInt (n : Int) : Json :=
  if n.natAbs ≥ Nat.pow 2 53 then .object [("int", .string (intText n))] else .int n

def writeSlot (heap : Heap) : Nat → Slot → Json
  | 0, _ => .null
  | rounds + 1, slot =>
      match slot with
      | .null => .null
      | .bool b => .bool b
      | .int n | .state n => writeInt n
      | .float x => .object [("float", .string (floatText x))]
      | .text t => .string t
      | .channel c => .object [("channel", .string c.name)]
      | .buffer .memoryview _ => .object [("object", .string "memoryview")]
      | .buffer kind octets =>
          .object [(.ofString kind.typeName, .string (Text.ofChars (writeHex octets)))]
      | .object identity =>
          match heap[identity]? with
          | some (.list xs) => .array (xs.map (writeSlot heap rounds))
          | some (.tuple xs) => .object [("tuple", .array (xs.map (writeSlot heap rounds)))]
          | some (.set xs) => .object [("set", .array (xs.map (writeSlot heap rounds)))]
          | some (.dict entries) =>
              .object [("dict", .array (entries.map fun (key, value) =>
                .array [writeSlot heap rounds key, writeSlot heap rounds value]))]
          | some cell => .object [("object", .string cell.typeName)]
          | none => .null

end Notation

def Value.ofNotation (json : Json) : Except Fault Value :=
  match (Notation.readSlot json.weight json).run ⟨Heap.empty, []⟩ with
  | .ok (slot, draft) => .ok ⟨draft.heap, slot⟩
  | .error fault => .error fault

def Value.toNotation (value : Value) : Json :=
  Notation.writeSlot value.heap (value.heap.size + 1) value.slot

end LedgerFeed
