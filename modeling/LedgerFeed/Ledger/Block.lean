import LedgerFeed.Value.Access

namespace LedgerFeed

def placeTransactions (heap : Heap) : List Slot → Except Fault (Heap × List Slot)
  | [] => .ok (heap, [])
  | transaction :: rest => do
      let entries ← transaction.toEntries heap
      let (heap, slot) := heap.alloc (.dict entries)
      let (heap, slots) ← placeTransactions heap rest
      pure (heap, slot :: slots)

def BlockFields.native (heap : Heap) (fields : BlockFields) :
    Except Fault (Heap × List (Slot × Slot)) := do
  let script ← fields.script.toEntries heap
  let (heap, script) := heap.alloc (.dict script)
  let (heap, transactions) ← placeTransactions heap (← fields.transactions.items heap)
  let (heap, transactions) := heap.alloc (.list transactions)
  pure (heap,
    [(.text "hash", fields.hash), (.text "size", fields.size), (.text "version", fields.version),
     (.text "previousblockhash", fields.previousHash), (.text "merkleroot", fields.merkleRoot),
     (.text "time", fields.time), (.text "index", fields.index), (.text "nonce", fields.nonce),
     (.text "nextconsensus", fields.nextConsensus), (.text "script", script),
     (.text "tx", transactions)])

def nativeFields (block : Value) : Except Fault (Heap × List (Slot × Slot)) :=
  match block.slot.cell? block.heap with
  | some (.dict entries) | some (.mapping entries) => .ok (block.heap, entries)
  | some (.block fields) => fields.native block.heap
  | some (.foreign (.returns fields)) => (fields.toEntries block.heap).map (block.heap, ·)
  | some (.foreign (.raises error)) => .error (.raised error)
  | _ => .error (.encoding (.notABlock block.typeName))

/-- The first thing that cannot be copied among the objects that the slots reach. -/
def copyFault? (heap : Heap) (visited : List Identity) : List Slot → Option String
  | [] => none
  | .buffer .memoryview _ :: _ => some "memoryview objects"
  | .object identity :: rest =>
      if bound : identity < heap.size then
        if fresh : identity ∈ visited then
          copyFault? heap visited rest
        else
          match heap[identity] with
          | .mapping _ => some "'mappingproxy' object"
          | cell => copyFault? heap (identity :: visited) (cell.parts ++ rest)
      else
        copyFault? heap visited rest
  | _ :: rest => copyFault? heap visited rest
termination_by slots => ((heap.unseen visited).length, slots.length)
decreasing_by
  · exact Prod.Lex.right _ (by simp)
  · exact Prod.Lex.left _ _ (Heap.unseen_cons_lt bound fresh)
  · exact Prod.Lex.right _ (by simp)
  · exact Prod.Lex.right _ (by simp)

end LedgerFeed
