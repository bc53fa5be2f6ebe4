import LedgerFeed.Fault

namespace LedgerFeed

/-! ## Equality of keys -/

def numbersEqual : Slot → Slot → Bool
  | .float x, .float y => x.equals y
  | .float x, other =>
      match other.int?, x.whole? with
      | some n, some m => n = m
      | _, _ => false
  | other, .float y =>
      match other.int?, y.whole? with
      | some n, some m => n = m
      | _, _ => false
  | left, right =>
      match left.int?, right.int? with
      | some n, some m => n = m
      | _, _ => false

/-- Equality of two slots, each in its heap. Objects are equal to themselves alone, so those of
separate heaps never are; tuples are equal by their items. The rounds bound the nesting of
tuples. -/
def sameWithin (shared : Bool) : Nat → Heap → Heap → Slot → Slot → Bool
  | 0, _, _, _, _ => false
  | rounds + 1, left, right, a, b =>
      match a, b with
      | .null, .null => true
      | .buffer _ x, .buffer _ y => x = y
      | .object i, .object j =>
          match left[i]?, right[j]? with
          | some (.tuple xs), some (.tuple ys) =>
              xs.length = ys.length &&
                (xs.zip ys).all fun (x, y) => sameWithin shared rounds left right x y
          | _, _ => shared && i = j
      | _, _ =>
          match a.text?, b.text? with
          | some s, some t => s = t
          | none, none => numbersEqual a b
          | _, _ => false

def sameKey (heap : Heap) (a b : Slot) : Bool := sameWithin true (heap.size + 1) heap heap a b

def Value.sameAs (a b : Value) : Bool :=
  sameWithin false (a.heap.size + b.heap.size + 1) a.heap b.heap a.slot b.slot

def unhashableWithin : Nat → Heap → Slot → Option String
  | 0, _, _ => none
  | rounds + 1, heap, slot =>
      match slot with
      | .buffer .bytearray _ => some "bytearray"
      | .object identity =>
          match heap[identity]? with
          | some (.tuple items) => items.findSome? (unhashableWithin rounds heap)
          | some (.block fields) =>
              (fields.named.map (·.2)).findSome? (unhashableWithin rounds heap)
          | some .plain => none
          | some (.foreign _) => none
          | some cell => some cell.typeName
          | none => none
      | _ => none

def Value.checkKey (value : Value) : Except Fault Unit :=
  match unhashableWithin (value.heap.size + 1) value.heap value.slot with
  | some type => .error (.unhashable type)
  | none => .ok ()

/-! ## Dictionaries and sets -/

/-- Puts an entry under its key: in the old place with the old key if the key is there. -/
def insertEntry (heap : Heap) (entries : List (Slot × Slot)) (key item : Slot) :
    List (Slot × Slot) :=
  match entries with
  | [] => [(key, item)]
  | (other, old) :: rest =>
      if sameKey heap other key then (other, item) :: rest
      else (other, old) :: insertEntry heap rest key item

def dictOf (heap : Heap) (pairs : List (Slot × Slot)) : Except Fault (List (Slot × Slot)) :=
  pairs.foldlM (fun entries (key, item) => do
    Value.checkKey ⟨heap, key⟩
    pure (insertEntry heap entries key item)) []

def setOf (heap : Heap) (items : List Slot) : Except Fault (List Slot) :=
  items.foldlM (fun found item => do
    Value.checkKey ⟨heap, item⟩
    pure (if found.any (sameKey heap · item) then found else found ++ [item])) []

/-! ## Views -/

namespace Slot

def isTrue (heap : Heap) : Slot → Bool
  | .null => false
  | .bool b => b
  | .int n => n ≠ 0
  | .state n => n ≠ 0
  | .float x => !(x.equals (Binary64.zero false))
  | .text t => !t.isEmpty
  | .channel _ => true
  | .buffer _ octets => !octets.isEmpty
  | .object identity =>
      match heap[identity]? with
      | some (.list items) | some (.tuple items) | some (.set items) => !items.isEmpty
      | some (.dict entries) | some (.mapping entries) => !entries.isEmpty
      | _ => true

def letters (text : Text) : List Slot := text.map fun letter => .text [letter]

def items? (heap : Heap) : Slot → Option (List Slot)
  | .text t => some (letters t)
  | .channel c => some (letters c.name)
  | .buffer _ octets => some (octets.map fun octet => .int octet.toNat)
  | .object identity =>
      match heap[identity]? with
      | some (.list items) | some (.tuple items) | some (.set items) => some items
      | some (.dict entries) | some (.mapping entries) => some (entries.map (·.1))
      | _ => none
  | _ => none

def items (heap : Heap) (slot : Slot) : Except Fault (List Slot) :=
  match slot.items? heap with
  | some found => .ok found
  | none => .error (.notIterable (slot.typeName heap))

def length (heap : Heap) (slot : Slot) : Except Fault Nat :=
  match slot.items? heap with
  | some found => .ok found.length
  | none => .error (.noLength (slot.typeName heap))

def entries? (heap : Heap) (slot : Slot) : Option (List (Slot × Slot)) :=
  match slot.cell? heap with
  | some (.dict entries) | some (.mapping entries) => some entries
  | _ => none

def pairAt (heap : Heap) (index : Nat) (item : Slot) : Except Fault (Slot × Slot) :=
  match item.items? heap with
  | none => .error (.entryNotSequence index)
  | some [key, value] => .ok (key, value)
  | some parts => .error (.entryLength index parts.length)

def insertPairs (heap : Heap) : Nat → List (Slot × Slot) → List Slot →
    Except Fault (List (Slot × Slot))
  | _, entries, [] => .ok entries
  | index, entries, item :: rest => do
      let (key, value) ← pairAt heap index item
      Value.checkKey ⟨heap, key⟩
      insertPairs heap (index + 1) (insertEntry heap entries key value) rest

def toEntries (heap : Heap) (slot : Slot) : Except Fault (List (Slot × Slot)) :=
  match slot.entries? heap with
  | some entries => .ok entries
  | none => do insertPairs heap 0 [] (← slot.items heap)

end Slot

namespace Value

def withSlot (value : Value) (slot : Slot) : Value := ⟨value.heap, slot⟩

def typeName (value : Value) : String := value.slot.typeName value.heap

def isTrue (value : Value) : Bool := value.slot.isTrue value.heap

def items (value : Value) : Except Fault (List Value) :=
  (value.slot.items value.heap).map fun found => found.map value.withSlot

def length (value : Value) : Except Fault Nat := value.slot.length value.heap

def text? (value : Value) : Option Text := value.slot.text?

def entry? (value : Value) (name : Text) : Option Value :=
  match value.slot.entries? value.heap with
  | some entries =>
      (entries.find? fun (key, _) => key.text? = some name).map fun (_, item) => value.withSlot item
  | none => none

end Value

end LedgerFeed
