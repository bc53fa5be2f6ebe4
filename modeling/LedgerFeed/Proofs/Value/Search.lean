import Mathlib.Logic.Relation
import LedgerFeed.Proofs.Number.Digits
import LedgerFeed.Value.Shown

/-!
# Searching what a slot reaches

A search that follows the parts of objects and enters no object twice finds what the slot reaches,
because a way through an object that was entered before can be cut (`avoid_object`).
-/

namespace LedgerFeed

open Relation

variable {heap : Heap} {parts : Cell → List Slot} {step : Slot → Slot → Prop}
  {visited path : List Identity} {slot target : Slot} {identity : Identity}

inductive PartOf (heap : Heap) (parts : Cell → List Slot) : Slot → Slot → Prop
  | intro {identity : Identity} {cell : Cell} {part : Slot} (held : heap[identity]? = some cell)
      (mem : part ∈ parts cell) : PartOf heap parts (.object identity) part

def Avoiding (visited : List Identity) (step : Slot → Slot → Prop) (a b : Slot) : Prop :=
  step a b ∧ ∀ identity ∈ visited, a ≠ .object identity

theorem Avoiding.mono (a b : Slot) (h : Avoiding (identity :: visited) step a b) :
    Avoiding visited step a b :=
  ⟨h.1, fun other listed => h.2 other (List.mem_cons_of_mem _ listed)⟩

theorem reaches_avoiding_nil :
    ReflTransGen (Avoiding [] step) slot target ↔ ReflTransGen step slot target := by
  have unbound (a b : Slot) : Avoiding [] step a b ↔ step a b := by
    simp [Avoiding]
  constructor
  · exact ReflTransGen.mono (fun a b => (unbound a b).mp) slot target
  · exact ReflTransGen.mono (fun a b => (unbound a b).mpr) slot target

theorem stays (stuck : ∀ b, ¬ step slot b) (h : ReflTransGen step slot target) : target = slot := by
  rcases h.cases_head with rfl | ⟨b, first, -⟩
  · rfl
  · exact absurd first (stuck b)

theorem PartOf.leaf (plain : ∀ identity, slot ≠ .object identity) (b : Slot) :
    ¬ Avoiding visited (PartOf heap parts) slot b := by
  rintro ⟨⟨held, mem⟩, -⟩
  exact plain _ rfl

theorem Avoiding.entered (listed : identity ∈ visited) (b : Slot) :
    ¬ Avoiding visited step (.object identity) b :=
  fun first => first.2 identity listed rfl

theorem inside_part {part : Slot} (first : step (.object identity) part)
    (inside : ∀ entered ∈ path, TransGen step (.object entered) (.object identity)) :
    ∀ entered ∈ identity :: path, TransGen step (.object entered) part := by
  intro entered listed
  rcases List.mem_cons.mp listed with rfl | listed
  · exact .single first
  · exact (inside entered listed).tail first

theorem avoid_object (h : ReflTransGen (Avoiding visited step) slot target)
    (other : target ≠ .object identity) :
    ReflTransGen (Avoiding (identity :: visited) step) slot target ∨
      ∃ part, step (.object identity) part ∧
        ReflTransGen (Avoiding (identity :: visited) step) part target := by
  induction h using ReflTransGen.head_induction_on with
  | refl => exact .inl .refl
  | @head a b first later ih =>
      rcases ih with avoiding | found
      · by_cases same : a = .object identity
        · subst same
          exact .inr ⟨b, first.1, avoiding⟩
        · refine .inl (.head ⟨first.1, ?_⟩ avoiding)
          intro entered listed
          rcases List.mem_cons.mp listed with rfl | listed
          · exact same
          · exact first.2 entered listed
      · exact .inr found

/-! ## Long numbers in shown values -/

def Slot.Oversized (slot : Slot) : Prop :=
  ∃ n, (slot = .int n ∨ slot = .state n) ∧ digitLimit < (natDigits n.natAbs).length

theorem exceedsDigitLimit_iff {n : Int} :
    exceedsDigitLimit n = true ↔ digitLimit < (natDigits n.natAbs).length := by
  rw [← Nat.not_le, ← exceedsDigitLimit_false, Bool.not_eq_false]

theorem Slot.oversized_int {n : Int} : (Slot.int n).Oversized ↔ exceedsDigitLimit n = true := by
  rw [exceedsDigitLimit_iff]
  simp [Oversized]

theorem Slot.oversized_state {n : Int} : (Slot.state n).Oversized ↔ exceedsDigitLimit n = true := by
  rw [exceedsDigitLimit_iff]
  simp [Oversized]

theorem Slot.Oversized.plain (h : slot.Oversized) (identity : Identity) :
    slot ≠ .object identity := by
  rintro rfl
  obtain ⟨n, same | same, -⟩ := h <;> cases same

theorem PartOf.cell {part : Slot} (h : PartOf heap parts (.object identity) part) :
    ∃ bound : identity < heap.size, part ∈ parts heap[identity] := by
  cases h with
  | intro held mem =>
      obtain ⟨bound, rfl⟩ := Array.getElem?_eq_some_iff.mp held
      exact ⟨bound, mem⟩

theorem partOf_cell {part : Slot} (bound : identity < heap.size)
    (mem : part ∈ parts heap[identity]) : PartOf heap parts (.object identity) part :=
  .intro (Array.getElem?_eq_some_iff.mpr ⟨bound, rfl⟩) mem

theorem Avoiding.part {part : Slot} (fresh : identity ∉ visited) (bound : identity < heap.size)
    (mem : part ∈ parts heap[identity]) :
    Avoiding visited (PartOf heap parts) (.object identity) part := by
  refine ⟨partOf_cell bound mem, ?_⟩
  rintro other listed ⟨⟩
  exact fresh listed

theorem oversized_stuck (stuck : ∀ b, ¬ step slot b) :
    (∃ number, ReflTransGen step slot number ∧ number.Oversized) ↔ slot.Oversized := by
  constructor
  · rintro ⟨number, reach, long⟩
    rwa [stays stuck reach] at long
  · exact fun long => ⟨slot, .refl, long⟩

theorem holdsLongInt_iff : holdsLongInt heap path slot = true ↔
    ∃ number, ReflTransGen (Avoiding path (PartOf heap Cell.shownParts)) slot number ∧
      number.Oversized := by
  -- On the search. A way out of an object is taken from where it leaves the object for good.
  fun_induction holdsLongInt heap path slot with
  | case1 path n => rw [oversized_stuck (PartOf.leaf (by simp)), Slot.oversized_int]
  | case2 path n => rw [oversized_stuck (PartOf.leaf (by simp)), Slot.oversized_state]
  | case3 path identity bound entered =>
      rw [oversized_stuck (Avoiding.entered entered)]
      simp [Slot.Oversized]
  | case4 path identity bound fresh ih =>
      rw [List.any_eq_true]
      constructor
      · rintro ⟨part, mem, holds⟩
        obtain ⟨number, reach, long⟩ := (ih part).mp holds
        have later := ReflTransGen.mono Avoiding.mono _ _ reach
        exact ⟨number, .head (.part fresh bound mem) later, long⟩
      · rintro ⟨number, reach, long⟩
        rcases avoid_object reach (long.plain identity) with avoiding | ⟨part, held, later⟩
        · have same := stays (Avoiding.entered List.mem_cons_self) avoiding
          exact absurd same (long.plain identity)
        · obtain ⟨_, mem⟩ := held.cell
          exact ⟨part, mem, (ih part).mpr ⟨number, later, long⟩⟩
  | case5 path identity outside =>
      have stuck (b : Slot) :
          ¬ Avoiding path (PartOf heap Cell.shownParts) (.object identity) b :=
        fun first => outside first.1.cell.1
      rw [oversized_stuck stuck]
      simp [Slot.Oversized]
  | case6 path slot notInt notState notObject =>
      rw [oversized_stuck (PartOf.leaf notObject)]
      constructor
      · intro h
        cases h
      · rintro ⟨n, rfl | rfl, -⟩
        · exact absurd rfl (notInt n)
        · exact absurd rfl (notState n)

def ShowsOversized (heap : Heap) (slot : Slot) : Prop :=
  ∃ number, ReflTransGen (PartOf heap Cell.shownParts) slot number ∧ number.Oversized

theorem holdsLongInt_shows {value : Value} :
    value.holdsLongInt = true ↔ ShowsOversized value.heap value.slot := by
  unfold Value.holdsLongInt ShowsOversized
  rw [holdsLongInt_iff]
  simp only [reaches_avoiding_nil]

end LedgerFeed
