import LedgerFeed.Fault
import LedgerFeed.Characters.Hex
import LedgerFeed.Characters.Blank

namespace LedgerFeed

/-- The value beside a kind in the wire form of a parameter that holds no parameters. -/
inductive Content
  | flag (b : Bool)
  | word (w : Word)
  deriving DecidableEq, Repr

inductive Rendered
  | void
  | scalar (kind : ParameterKind) (content : Content)
  | array (items : List Rendered)
  | map (entries : List (Rendered × Rendered))
  deriving Repr

def Content.json : Content → Json
  | .flag b => .bool b
  | .word w => .string w.content

def Content.slot : Content → Slot
  | .flag b => .bool b
  | .word w => w.slot

def Content.ofChars (chars : List Char) : Content := .word (.text (.ofChars chars))

/-! ## Hashes -/

def hashSize : ParameterKind → Nat
  | .hash160 => 20
  | _ => 32

def hashDigits (text : Text) : Text :=
  match text with
  | .char '0' :: .char 'x' :: digits => digits
  | _ => text

def isHashText (size : Nat) (digits : Text) : Bool :=
  digits.length = 2 * size &&
    match digits.chars?.bind (readHex? isAsciiBlank) with
    | some octets => octets.length = size
    | none => false

def renderHash (heap : Heap) (kind : ParameterKind) (value : Slot) : Except Fault Content :=
  let size := hashSize kind
  match value.text? with
  | some text =>
      let digits := hashDigits text
      if isHashText size digits then
        .ok (.word (.text ('0' :: 'x' :: digits)))
      else
        .error (.encoding (.hashDigits kind size (shown heap [] value)))
  | none =>
      match value with
      | .buffer .memoryview _ => .error (.encoding (.mismatch kind (value.typeName heap)))
      | .buffer _ octets =>
          if octets.length = size then
            .ok (.ofChars ('0' :: 'x' :: writeHex octets.reverse))
          else
            .error (.encoding (.hashLength kind size octets.length))
      | _ => .error (.encoding (.mismatch kind (value.typeName heap)))

/-! ## Kinds that hold no parameters -/

def renderScalar (heap : Heap) (kind : ParameterKind) (value : Slot) : Except Fault Content :=
  let mismatch : Except Fault Content := .error (.encoding (.mismatch kind (value.typeName heap)))
  match kind with
  | .boolean =>
      match value with
      | .bool b => .ok (.flag b)
      | _ => mismatch
  | .integer =>
      match value with
      | .int n | .state n =>
          if exceedsDigitLimit n then .error (.form .tooManyDigits)
          else .ok (.ofChars (intDigits n))
      | _ => mismatch
  | .string =>
      match value.word? with
      | some w => .ok (.word w)
      | none => mismatch
  | .byteArray | .publicKey | .signature =>
      match value with
      | .buffer _ octets => .ok (.ofChars (writeHex octets))
      | _ => mismatch
  | .hash160 | .hash256 => renderHash heap kind value
  | _ => .error (.encoding (.unrendered kind))

/-! ## Parameters -/

def sequence? (heap : Heap) (slot : Slot) : Option (List Slot) :=
  match slot.cell? heap with
  | some (.list items) | some (.tuple items) => some items
  | _ => none

def mapPair? (heap : Heap) (slot : Slot) : Option (Slot × Slot) :=
  match sequence? heap slot with
  | some [key, value] => some (key, value)
  | _ => none

def kindOf? (slot : Slot) : Option ParameterKind :=
  match slot.text? with
  | some name => ParameterKind.ofName? name
  | none => none

def unknownKind (heap : Heap) (slot : Slot) : Fault :=
  Value.unlessLong ⟨heap, slot⟩ (.encoding (.unknownKind (shown heap [] slot)))

/-- The wire form of a parameter that is reached through the containers of `path`. -/
def renderParameter (heap : Heap) (path : List Identity) (slot : Slot) : Except Fault Rendered :=
  match slot with
  | .object identity =>
      if bound : identity < heap.size then
        match heap[identity] with
        | .parameter kindSlot value =>
            match kindOf? kindSlot with
            | none => .error (unknownKind heap kindSlot)
            | some .void => .ok .void
            | some .array =>
                if fresh : identity ∈ path then
                  .error (.encoding (.recursive .array))
                else
                  match sequence? heap value with
                  | none => .error (.encoding (.mismatch .array (value.typeName heap)))
                  | some items => do
                      let rendered ← items.mapM fun item =>
                        renderParameter heap (identity :: path) item
                      pure (.array rendered)
            | some .map =>
                if fresh : identity ∈ path then
                  .error (.encoding (.recursive .map))
                else
                  match sequence? heap value with
                  | none => .error (.encoding (.mismatch .map (value.typeName heap)))
                  | some entries => do
                      let rendered ← entries.mapM fun entry =>
                        match mapPair? heap entry with
                        | none => .error (.encoding .mapEntry)
                        | some (key, item) => do
                            let renderedKey ← renderParameter heap (identity :: path) key
                            let renderedItem ← renderParameter heap (identity :: path) item
                            pure (renderedKey, renderedItem)
                      pure (.map rendered)
            | some kind => (renderScalar heap kind value).map (.scalar kind)
        | cell => .error (.encoding (.notAParameter cell.typeName))
      else
        .error (.encoding (.notAParameter "object"))
  | _ => .error (.encoding (.notAParameter (slot.typeName heap)))
termination_by (heap.unseen path).length
decreasing_by all_goals exact Heap.unseen_cons_lt bound fresh

def Value.render (value : Value) : Except Fault Rendered :=
  renderParameter value.heap [] value.slot

/-! ## Forms of a rendered parameter -/

def tagged (kind : ParameterKind) (value : Json) : Json :=
  .object [("type", .string kind.name), ("value", value)]

mutual

def Rendered.json : Rendered → Json
  | .void => .object [("type", .string ParameterKind.void.name)]
  | .scalar kind content => tagged kind content.json
  | .array items => tagged .array (.array (jsonItems items))
  | .map entries => tagged .map (.array (jsonEntries entries))

def Rendered.jsonItems : List Rendered → List Json
  | [] => []
  | item :: rest => item.json :: jsonItems rest

def Rendered.jsonEntries : List (Rendered × Rendered) → List Json
  | [] => []
  | (key, item) :: rest => .object [("key", key.json), ("value", item.json)] :: jsonEntries rest

end

def placeTagged (heap : Heap) (kind : ParameterKind) (value : Slot) : Heap × Slot :=
  heap.alloc (.dict [(.text "type", .text kind.name), (.text "value", value)])

mutual

def Rendered.place (heap : Heap) : Rendered → Heap × Slot
  | .void => heap.alloc (.dict [(.text "type", .text ParameterKind.void.name)])
  | .scalar kind content => placeTagged heap kind content.slot
  | .array items =>
      let (heap, slots) := placeItems heap items
      let (heap, list) := heap.alloc (.list slots)
      placeTagged heap .array list
  | .map entries =>
      let (heap, slots) := placeEntries heap entries
      let (heap, list) := heap.alloc (.list slots)
      placeTagged heap .map list

def Rendered.placeItems (heap : Heap) : List Rendered → Heap × List Slot
  | [] => (heap, [])
  | item :: rest =>
      let (heap, slot) := item.place heap
      let (heap, slots) := placeItems heap rest
      (heap, slot :: slots)

def Rendered.placeEntries (heap : Heap) : List (Rendered × Rendered) → Heap × List Slot
  | [] => (heap, [])
  | (key, item) :: rest =>
      let (heap, keySlot) := key.place heap
      let (heap, itemSlot) := item.place heap
      let (heap, entry) := heap.alloc (.dict [(.text "key", keySlot), (.text "value", itemSlot)])
      let (heap, slots) := placeEntries heap rest
      (heap, entry :: slots)

end

def Rendered.toValue (rendered : Rendered) : Value :=
  let (heap, slot) := rendered.place Heap.empty
  ⟨heap, slot⟩

end LedgerFeed
