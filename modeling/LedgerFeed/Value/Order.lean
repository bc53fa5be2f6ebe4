import LedgerFeed.Value.Access

namespace LedgerFeed

def listBefore : List Nat → List Nat → Bool
  | _, [] => false
  | [], _ :: _ => true
  | a :: as, b :: bs => a < b || (a = b && listBefore as bs)

def Slot.float? (slot : Slot) : Option Binary64 :=
  match slot with
  | .float x => some x
  | _ => none

def numberBefore (a b : Slot) : Option Bool :=
  match a.int?, b.int?, a.float?, b.float? with
  | some n, some m, _, _ => some (n < m)
  | some n, _, _, some y =>
      match y.ratio? with
      | some (p, q) => some (n * (q : Int) < p)
      | none => some (y.equals (.infinity false))
  | _, some m, some x, _ =>
      match x.ratio? with
      | some (p, q) => some (p < m * (q : Int))
      | none => some (x.equals (.infinity true))
  | _, _, some x, some y => some (x.lt y)
  | _, _, _, _ => none

def beforeWithin (heap : Heap) : Nat → Slot → Slot → Except Fault Bool
  | 0, _, _ => .ok false
  | rounds + 1, a, b =>
      let unordered := .error (.unordered (a.typeName heap) (b.typeName heap))
      match a.text?, b.text? with
      | some s, some t => .ok (listBefore (s.map Letter.code) (t.map Letter.code))
      | _, _ =>
          match a, b with
          | .buffer .bytes xs, .buffer .bytes ys =>
              .ok (listBefore (xs.map UInt8.toNat) (ys.map UInt8.toNat))
          | .object i, .object j =>
              match heap[i]?, heap[j]? with
              | some (.tuple xs), some (.tuple ys) =>
                  match (xs.zip ys).find? fun (x, y) => !sameKey heap x y with
                  | some (x, y) => beforeWithin heap rounds x y
                  | none => .ok (xs.length < ys.length)
              | _, _ => unordered
          | _, _ =>
              match numberBefore a b with
              | some result => .ok result
              | none => unordered

def slotBefore (heap : Heap) (a b : Slot) : Except Fault Bool :=
  beforeWithin heap (heap.size + 1) a b

/-! ## Sorting

The sort of `sortBy` is stable. Its first comparisons find the run at the front, which rises or
falls; each item behind the run is then put in its place by halving. The order of the comparisons
matters because one that fails decides the fault.
-/

section
variable {α : Type} (before : α → α → Except Fault Bool)

def continueRun (falling : Bool) (last : α) : List α → Except Fault (List α × List α)
  | [] => .ok ([], [])
  | next :: rest => do
      if (← before next last) = falling then
        let (run, others) ← continueRun falling next rest
        pure (next :: run, others)
      else
        pure ([], next :: rest)

def findPlace (sorted : Array α) (item : α) (low high : Nat) : Except Fault Nat :=
  if low < high then
    let middle := low + (high - low) / 2
    match sorted[middle]? with
    | some other => do
        if ← before item other then findPlace sorted item low middle
        else findPlace sorted item (middle + 1) high
    | none => .ok low
  else
    .ok low
termination_by high - low

def insertSorted (sorted : List α) (item : α) : Except Fault (List α) := do
  let place ← findPlace before sorted.toArray item 0 sorted.length
  pure (sorted.take place ++ item :: sorted.drop place)

/-- The items in order; equal ones stay as they were. -/
def sortBy : List α → Except Fault (List α)
  | first :: second :: rest => do
      let falling ← before second first
      let (run, others) ← continueRun before falling second rest
      let front := first :: second :: run
      others.foldlM (insertSorted before) (if falling then front.reverse else front)
  | items => .ok items

end

def sortSlots (heap : Heap) (slots : List Slot) : Except Fault (List Slot) :=
  sortBy (slotBefore heap) slots

end LedgerFeed
