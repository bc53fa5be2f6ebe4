import LedgerFeed.Proofs.Except
import LedgerFeed.Ledger.Block

namespace LedgerFeed

theorem checkKey_ordinary {value : Value} {fault : Fault} (h : value.checkKey = .error fault) :
    fault.isOrdinary = true := by
  unfold Value.checkKey at h
  split at h <;> cases h
  rfl

namespace Slot

variable {heap : Heap}

theorem items_ordinary {slot : Slot} {fault : Fault} (h : slot.items heap = .error fault) :
    fault.isOrdinary = true := by
  unfold Slot.items at h
  split at h <;> cases h
  rfl

theorem pairAt_ordinary {index : Nat} {item : Slot} {fault : Fault}
    (h : pairAt heap index item = .error fault) : fault.isOrdinary = true := by
  unfold pairAt at h
  split at h <;> cases h <;> rfl

theorem insertPairs_ordinary {index : Nat} {entries : List (Slot × Slot)} {items : List Slot}
    {fault : Fault} (h : insertPairs heap index entries items = .error fault) :
    fault.isOrdinary = true := by
  induction items generalizing index entries with
  | nil => cases h
  | cons item rest ih =>
      simp only [insertPairs, bind_eq_error] at h
      rcases h with h | ⟨_, -, h | ⟨_, -, h⟩⟩
      · exact pairAt_ordinary h
      · exact checkKey_ordinary h
      · exact ih h

theorem toEntries_ordinary {slot : Slot} {fault : Fault} (h : slot.toEntries heap = .error fault) :
    fault.isOrdinary = true := by
  unfold toEntries at h
  split at h
  · cases h
  · rcases bind_eq_error.mp h with h | ⟨_, -, h⟩
    · exact items_ordinary h
    · exact insertPairs_ordinary h

end Slot

theorem placeTransactions_ordinary {heap : Heap} {transactions : List Slot} {fault : Fault}
    (h : placeTransactions heap transactions = .error fault) : fault.isOrdinary = true := by
  induction transactions generalizing heap with
  | nil => cases h
  | cons transaction rest ih =>
      simp only [placeTransactions, bind_eq_error, pure_ne_error, and_false, exists_false,
        or_false] at h
      rcases h with h | ⟨_, -, h⟩
      · exact Slot.toEntries_ordinary h
      · exact ih h

theorem native_ordinary {heap : Heap} {fields : BlockFields} {fault : Fault}
    (h : fields.native heap = .error fault) : fault.isOrdinary = true := by
  simp only [BlockFields.native, bind_eq_error, pure_ne_error, and_false, exists_false,
    or_false] at h
  rcases h with h | ⟨_, -, h | ⟨_, -, h⟩⟩
  · exact Slot.toEntries_ordinary h
  · exact Slot.items_ordinary h
  · exact placeTransactions_ordinary h

theorem nativeFields_ordinary {block : Value} {fault : Fault}
    (h : nativeFields block = .error fault) :
    fault.isOrdinary = true ∨ ∃ error,
      block.slot.cell? block.heap = some (.foreign (.raises error)) ∧ fault = .raised error := by
  unfold nativeFields at h
  split at h
  · cases h
  · cases h
  · exact .inl (native_ordinary h)
  · exact .inl (Slot.toEntries_ordinary (map_eq_error.mp h))
  · rename_i error hcell
    cases h
    exact .inr ⟨error, hcell, rfl⟩
  · cases h
    exact .inl rfl

end LedgerFeed
