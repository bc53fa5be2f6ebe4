import LedgerFeed.Proofs.Value.Reading
import LedgerFeed.Wire.Message

namespace LedgerFeed

def Fault.isEncoding : Fault → Bool
  | .encoding _ => true
  | _ => false

def Fault.OfRendering (fault : Fault) : Prop :=
  fault.isEncoding = true ∨ fault = .form .tooManyDigits

theorem Fault.OfRendering.isOrdinary {fault : Fault} (h : fault.OfRendering) :
    fault.isOrdinary = true := by
  rcases h with h | rfl
  · cases fault <;> first | rfl | cases h
  · rfl

theorem unknownKind_fault (heap : Heap) (slot : Slot) : (unknownKind heap slot).OfRendering := by
  unfold unknownKind Value.unlessLong
  split
  · exact .inr rfl
  · exact .inl rfl

theorem renderHash_fault {heap : Heap} {kind : ParameterKind} {value : Slot} {fault : Fault}
    (h : renderHash heap kind value = .error fault) : fault.OfRendering := by
  unfold renderHash at h
  dsimp only at h
  repeat' split at h
  all_goals cases h
  all_goals exact .inl rfl

theorem renderScalar_fault {heap : Heap} {kind : ParameterKind} {value : Slot} {fault : Fault}
    (h : renderScalar heap kind value = .error fault) : fault.OfRendering := by
  unfold renderScalar at h
  cases kind <;> dsimp only at h
  case hash160 | hash256 => exact renderHash_fault h
  all_goals repeat' split at h
  all_goals cases h
  all_goals first | exact .inl rfl | exact .inr rfl

theorem renderParameter_fault {heap : Heap} {path : List Identity} {slot : Slot} {fault : Fault}
    (h : renderParameter heap path slot = .error fault) : fault.OfRendering := by
  fun_induction renderParameter heap path slot with
  | case1 =>
      cases h
      exact unknownKind_fault _ _
  | case2 => cases h
  | case5 path identity bound kindSlot value _ _ fresh items _ ih =>
      simp only [bind_eq_error, pure_ne_error, and_false, exists_false, or_false] at h
      obtain ⟨item, -, hitem⟩ := mapM_eq_error h
      exact ih item hitem
  | case8 path identity bound kindSlot value _ _ fresh entries _ ih =>
      simp only [bind_eq_error, pure_ne_error, and_false, exists_false, or_false] at h
      obtain ⟨entry, -, hentry⟩ := mapM_eq_error h
      split at hentry
      · cases hentry
        exact .inl rfl
      · simp only [bind_eq_error, pure_ne_error, and_false, exists_false, or_false] at hentry
        rcases hentry with hkey | ⟨_, -, hitem⟩
        · exact ih _ hkey
        · exact ih _ hitem
  | case9 => exact renderScalar_fault (map_eq_error.mp h)
  | _ =>
      cases h
      exact .inl rfl

theorem encodeNotification_fault {contract txid state : Value} {items : List Value}
    (hi : state.items = .ok items) {fault : Fault}
    (h : encodeNotification contract txid state = .error fault) : fault.OfRendering := by
  unfold encodeNotification at h
  split at h
  · simp only [hi, bind_eq_error, pure_ne_error, and_false, exists_false, or_false] at h
    rcases h with h | ⟨_, -, h⟩
    · cases h
    · obtain ⟨item, -, hitem⟩ := mapM_eq_error h
      exact renderParameter_fault hitem
  · cases h
    exact .inl rfl
  · cases h
    exact .inl rfl

theorem encodeNotification_ordinary {contract txid state : Value} {fault : Fault}
    (h : encodeNotification contract txid state = .error fault) : fault.isOrdinary = true := by
  cases hi : state.items with
  | ok items => exact (encodeNotification_fault hi h).isOrdinary
  | error other =>
      unfold encodeNotification at h
      split at h
      · rw [hi] at h
        cases h
        exact Slot.items_ordinary (map_eq_error.mp hi)
      · cases h
        rfl
      · cases h
        rfl

end LedgerFeed
