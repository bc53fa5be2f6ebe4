import LedgerFeed.Proofs.Value.Formed
import LedgerFeed.Proofs.Wire.Standard

namespace LedgerFeed

open Relation

variable {heap : Heap} {visited : List Identity} {identity : Identity} {slot : Slot}
  {slots : List Slot} {block : Value} {native : List (Slot × Slot)} {field : Slot × Slot}

/-! ## What cannot be copied -/

inductive Uncopyable (heap : Heap) : Slot → Prop
  | memoryview (octets : List UInt8) : Uncopyable heap (.buffer .memoryview octets)
  | mapping {identity : Identity} {entries : List (Slot × Slot)}
      (cell : heap[identity]? = some (.mapping entries)) : Uncopyable heap (.object identity)

/-- A copy that leaves none of these objects comes from the slot to something uncopyable. -/
def CopyMeets (heap : Heap) (visited : List Identity) (slot : Slot) : Prop :=
  ∃ target, ReflTransGen (Avoiding visited (PartOf heap Cell.parts)) slot target ∧
    Uncopyable heap target

theorem copyMeets_stuck (stuck : ∀ b, ¬ Avoiding visited (PartOf heap Cell.parts) slot b) :
    CopyMeets heap visited slot ↔ Uncopyable heap slot := by
  constructor
  · rintro ⟨target, reach, fault⟩
    rwa [stays stuck reach] at fault
  · exact fun fault => ⟨slot, .refl, fault⟩

theorem CopyMeets.mono (h : CopyMeets heap (identity :: visited) slot) :
    CopyMeets heap visited slot := by
  obtain ⟨target, reach, fault⟩ := h
  exact ⟨target, ReflTransGen.mono Avoiding.mono _ _ reach, fault⟩

theorem CopyMeets.enter (copyable : ¬ Uncopyable heap (.object identity))
    (h : CopyMeets heap visited slot) :
    CopyMeets heap (identity :: visited) slot ∨
      ∃ part, PartOf heap Cell.parts (.object identity) part ∧
        CopyMeets heap (identity :: visited) part := by
  obtain ⟨target, reach, fault⟩ := h
  have other : target ≠ .object identity := by
    rintro rfl
    exact copyable fault
  rcases avoid_object reach other with avoiding | ⟨part, first, later⟩
  · exact .inl ⟨target, avoiding, fault⟩
  · exact .inr ⟨part, first, target, later, fault⟩

theorem not_uncopyable (other : ∀ entries, heap[identity]? ≠ some (.mapping entries)) :
    ¬ Uncopyable heap (.object identity) := by
  intro fault
  cases fault with
  | mapping found => exact other _ found

theorem copyFault?_isSome_iff
    (clean : ∀ identity ∈ visited, ¬ Uncopyable heap (.object identity)) :
    (copyFault? heap visited slots).isSome = true ↔
      ∃ slot ∈ slots, CopyMeets heap visited slot := by
  -- On the copy. The parts of an object that it enters come before the slots that are left.
  fun_induction copyFault? heap visited slots with
  | case1 visited => simp
  | case2 visited octets rest =>
      refine iff_of_true rfl ⟨_, List.mem_cons_self, ?_⟩
      exact (copyMeets_stuck (PartOf.leaf (by simp))).mpr (.memoryview octets)
  | case3 visited identity rest bound entered ih =>
      rw [ih clean, List.exists_mem_cons_iff, copyMeets_stuck (Avoiding.entered entered)]
      simp [clean identity entered]
  | case4 visited identity rest bound fresh entries cell =>
      have found := Array.getElem?_eq_some_iff.mpr ⟨bound, cell⟩
      exact iff_of_true rfl ⟨_, List.mem_cons_self, _, .refl, .mapping found⟩
  | case5 visited identity rest bound fresh notMapping ih =>
      have copyable : ¬ Uncopyable heap (.object identity) := not_uncopyable fun entries found =>
        notMapping entries (Array.getElem?_eq_some_iff.mp found).2
      rw [ih (List.forall_mem_cons.mpr ⟨copyable, clean⟩)]
      constructor
      · rintro ⟨slot, mem, meets⟩
        rcases List.mem_append.mp mem with mem | mem
        · obtain ⟨target, reach, fault⟩ := meets.mono
          exact ⟨_, List.mem_cons_self, target, .head (.part fresh bound mem) reach, fault⟩
        · exact ⟨slot, List.mem_cons_of_mem _ mem, meets.mono⟩
      · rintro ⟨slot, mem, meets⟩
        rcases meets.enter copyable with later | ⟨part, first, later⟩
        · rcases List.mem_cons.mp mem with rfl | mem
          · rw [copyMeets_stuck (Avoiding.entered List.mem_cons_self)] at later
            exact absurd later copyable
          · exact ⟨slot, List.mem_append_right _ mem, later⟩
        · obtain ⟨_, held⟩ := first.cell
          exact ⟨part, List.mem_append_left _ held, later⟩
  | case6 visited identity rest outside ih =>
      have stuck (b : Slot) : ¬ Avoiding visited (PartOf heap Cell.parts) (.object identity) b :=
        fun first => outside first.1.cell.1
      have copyable : ¬ Uncopyable heap (.object identity) := not_uncopyable fun _ found =>
        outside (Array.getElem?_eq_some_iff.mp found).1
      rw [ih clean, List.exists_mem_cons_iff, copyMeets_stuck stuck]
      simp [copyable]
  | case7 visited slot rest notView notObject ih =>
      have copyable : ¬ Uncopyable heap slot := by
        rintro (⟨octets⟩ | _)
        · exact notView octets rfl
        · exact notObject _ rfl
      rw [ih clean, List.exists_mem_cons_iff, copyMeets_stuck (PartOf.leaf notObject)]
      simp [copyable]

def CopyFails (heap : Heap) (fields : List (Slot × Slot)) : Prop :=
  ∃ field ∈ fields, ∃ start, (start = field.1 ∨ start = field.2) ∧
    ∃ target, ReflTransGen (PartOf heap Cell.parts) start target ∧ Uncopyable heap target

theorem copyFails_iff : CopyFails heap native ↔
    (copyFault? heap [] (native.flatMap fun (key, item) => [item, key])).isSome = true := by
  rw [copyFault?_isSome_iff (by simp)]
  simp only [CopyMeets, reaches_avoiding_nil, List.mem_flatMap, List.mem_cons, List.not_mem_nil,
    or_false]
  constructor
  · rintro ⟨field, mem, start, mine, meets⟩
    exact ⟨start, ⟨field, mem, mine.symm⟩, meets⟩
  · rintro ⟨start, ⟨field, mem, mine⟩, meets⟩
    exact ⟨field, mem, start, mine.symm, meets⟩

/-! ## What a block offers -/

inductive Offers : Value → Heap → List (Slot × Slot) → Prop
  | mapping {heap : Heap} {slot : Slot} {fields : List (Slot × Slot)}
      (entries : slot.entries? heap = some fields) : Offers ⟨heap, slot⟩ heap fields
  | rendered {heap : Heap} {identity : Identity} {slot : Slot} {fields : List (Slot × Slot)}
      (cell : heap[identity]? = some (.foreign (.returns slot)))
      (entries : slot.entries? heap = some fields) : Offers ⟨heap, .object identity⟩ heap fields
  | persisted {heap later : Heap} {identity : Identity} {own : BlockFields}
      {fields : List (Slot × Slot)} (cell : heap[identity]? = some (.block own))
      (native : own.native heap = .ok (later, fields)) :
      Offers ⟨heap, .object identity⟩ later fields

def Cell.isBlockLike : Cell → Bool
  | .dict _ | .mapping _ | .block _ | .foreign (.returns _) | .foreign (.raises _) => true
  | _ => false

theorem Offers.nativeFields_eq (h : Offers block heap native) :
    nativeFields block = .ok (heap, native) := by
  cases h with
  | mapping entries =>
      unfold Slot.entries? at entries
      unfold nativeFields
      split at entries <;> cases entries
      · next cell => rw [cell]
      · next cell => rw [cell]
  | rendered cell entries =>
      simp only [nativeFields, Slot.cell?, cell, Slot.toEntries, entries, Except.map]
  | persisted cell native => simp only [nativeFields, Slot.cell?, cell, native]

theorem nativeFields_notABlock
    (other : ∀ cell, block.slot.cell? block.heap = some cell → cell.isBlockLike = false) :
    nativeFields block = .error (.encoding (.notABlock block.typeName)) := by
  unfold nativeFields
  split
  case h_6 => rfl
  all_goals
    rename_i cell
    cases other _ cell

/-! ## Announcing -/

structure FieldFault (heap : Heap) (field : Slot × Slot) : Prop where
  goesOut : field.1.text? ≠ some "confirmations"
  formless : Nameless field.1 ∨ Formless heap field.2

theorem formEntry_error_iff :
    (∃ error, formEntry heap [] field = .error error) ↔
      Nameless field.1 ∨ Formless heap field.2 := by
  have formed := @formEntry_exists_iff heap [] field
  rw [form_exists_iff] at formed
  cases result : formEntry heap [] field with
  | ok member =>
      obtain ⟨named, value⟩ := formed.mp ⟨member, result⟩
      simp [named, value]
  | error error =>
      rw [result] at formed
      have fault : ¬ (¬ Nameless field.1 ∧ ¬ Formless heap field.2) := by
        rw [← formed]
        simp
      simpa [not_and_or, or_iff_not_imp_left] using fault

theorem encodeBlock_refuses_iff (offered : nativeFields block = .ok (heap, native)) :
    (∃ error, encodeBlock block = .error (.encoding error)) ↔
      ¬ CopyFails heap native ∧ ∃ field ∈ native, FieldFault heap field := by
  rw [encodeBlock_refuses offered, copyFails_iff, Bool.not_eq_true, Option.isSome_eq_false_iff,
    Option.isNone_iff_eq_none]
  simp only [formEntry_error_iff]
  refine and_congr_right fun _ => exists_congr fun field => and_congr_right fun _ => ?_
  exact ⟨fun h => ⟨h.1, h.2⟩, fun h => ⟨h.1, h.2⟩⟩

theorem encodeBlock_uncopyable_iff (offered : nativeFields block = .ok (heap, native)) :
    (∃ what, encodeBlock block = .error (.notCopyable what)) ↔ CopyFails heap native := by
  rw [copyFails_iff]
  simp only [encodeBlock, offered, bind, Except.bind]
  cases copyFault? heap [] (native.flatMap fun (key, item) => [item, key]) with
  | some what => simp
  | none =>
      simp only [Option.isSome_none, Bool.false_eq_true, iff_false]
      split <;> simp

theorem encodeBlock_fault {fault : Fault} (offered : nativeFields block = .ok (heap, native))
    (h : encodeBlock block = .error fault) :
    (∃ error, fault = .encoding error) ∨ ∃ what, fault = .notCopyable what := by
  simp only [encodeBlock, offered, bind, Except.bind] at h
  split at h
  · cases h
    exact .inr ⟨_, rfl⟩
  · split at h <;> cases h
    exact .inl ⟨_, rfl⟩

theorem encodeBlock_announces_iff (offered : nativeFields block = .ok (heap, native)) :
    (∃ message, encodeBlock block = .ok message ∧ ∃ payload, message.text = .ok payload) ↔
      ¬ CopyFails heap native ∧ ∀ field ∈ native, ¬ FieldFault heap field := by
  have refused := encodeBlock_refuses_iff offered
  have uncopyable := encodeBlock_uncopyable_iff offered
  cases result : encodeBlock block with
  | ok message =>
      obtain ⟨-, ⟨tree, formed⟩, -⟩ := encodeBlock_eq_ok result
      have payload : message.text = .ok tree.compact := by
        rw [BlockMessage.text, formed]
        rfl
      simp only [result, reduceCtorEq, exists_false, false_iff, not_and, not_exists] at refused
      simp only [result, reduceCtorEq, exists_false, false_iff] at uncopyable
      exact iff_of_true ⟨message, rfl, _, payload⟩ ⟨uncopyable, refused uncopyable⟩
  | error fault =>
      refine iff_of_false (by simp) ?_
      rintro ⟨copied, clean⟩
      rcases encodeBlock_fault offered result with ⟨error, rfl⟩ | ⟨what, rfl⟩
      · obtain ⟨-, field, mem, fieldFault⟩ := refused.mp ⟨error, result⟩
        exact clean field mem fieldFault
      · exact copied (uncopyable.mp ⟨what, result⟩)

/-- A block that offers fields goes out, is refused, or cannot be copied, each in its own case, and
nothing else is encoded. -/
theorem encodeBlock_decides (block : Value) :
    (∀ heap fields, Offers block heap fields →
      ((∃ message, encodeBlock block = .ok message ∧ ∃ payload, message.text = .ok payload) ↔
        ¬ CopyFails heap fields ∧ ∀ field ∈ fields, ¬ FieldFault heap field) ∧
      ((∃ error, encodeBlock block = .error (.encoding error)) ↔
        ¬ CopyFails heap fields ∧ ∃ field ∈ fields, FieldFault heap field) ∧
      ((∃ what, encodeBlock block = .error (.notCopyable what)) ↔ CopyFails heap fields) ∧
      ∀ fault, encodeBlock block = .error fault →
        (∃ error, fault = .encoding error) ∨ ∃ what, fault = .notCopyable what) ∧
    ((∀ cell, block.slot.cell? block.heap = some cell → cell.isBlockLike = false) →
      encodeBlock block = .error (.encoding (.notABlock block.typeName))) := by
  constructor
  · intro heap fields offers
    have offered := offers.nativeFields_eq
    exact ⟨encodeBlock_announces_iff offered, encodeBlock_refuses_iff offered,
      encodeBlock_uncopyable_iff offered, fun _ => encodeBlock_fault offered⟩
  · intro other
    simp only [encodeBlock, nativeFields_notABlock other, bind, Except.bind]

def viewedBlock : Value :=
  ⟨#[.dict [(.text "tx", .buffer .memoryview [0])]], .object 0⟩

theorem viewedBlock_offers :
    Offers viewedBlock viewedBlock.heap [(.text "tx", .buffer .memoryview [0])] :=
  .mapping rfl

theorem viewedBlock_copyFails :
    CopyFails viewedBlock.heap [(.text "tx", .buffer .memoryview [0])] :=
  ⟨_, List.mem_singleton_self _, _, .inr rfl, _, .refl, .memoryview [0]⟩

theorem encodeBlock_decides_viewed :
    (∃ what, encodeBlock viewedBlock = .error (.notCopyable what)) ∧
      (∃ error, encodeBlock unformedBlock = .error (.encoding error)) ∧
      (∃ message, encodeBlock ⟨#[.dict []], .object 0⟩ = .ok message ∧
        ∃ payload, message.text = .ok payload) ∧
      encodeBlock .null = .error (.encoding (.notABlock "NoneType")) := by
  obtain ⟨-, -, uncopyable, -⟩ := (encodeBlock_decides viewedBlock).1 _ _ viewedBlock_offers
  obtain ⟨-, refused, -, -⟩ := (encodeBlock_decides unformedBlock).1 unformedBlock.heap
    [(.text "tx", .object 1)] (.mapping rfl)
  obtain ⟨announced, -⟩ := (encodeBlock_decides ⟨#[.dict []], .object 0⟩).1 _ [] (.mapping rfl)
  refine ⟨uncopyable.mpr viewedBlock_copyFails, refused.mpr ⟨?_, _, List.mem_singleton_self _, ?_⟩,
    announced.mpr ⟨?_, by simp⟩, (encodeBlock_decides .null).2 ?_⟩
  · rw [copyFails_iff]
    simp [unformedBlock_copied]
  · exact ⟨by simp [Slot.text?], formEntry_error_iff.mp ⟨_, unformedBlock_field⟩⟩
  · simp [CopyFails]
  · simp [Value.null, Value.ofSlot, Slot.cell?]

/-- The field has no form, and the block is not refused for it. -/
theorem viewedBlock_escapes :
    Offers viewedBlock viewedBlock.heap [(.text "tx", .buffer .memoryview [0])] ∧
      FieldFault viewedBlock.heap (.text "tx", .buffer .memoryview [0]) ∧
      ¬ ∃ error, encodeBlock viewedBlock = .error (.encoding error) := by
  refine ⟨viewedBlock_offers, ⟨by simp [Slot.text?], .inr (.itself (.buffer _ _))⟩, ?_⟩
  rw [encodeBlock_refuses_iff viewedBlock_offers.nativeFields_eq]
  exact fun h => h.1 viewedBlock_copyFails

end LedgerFeed
