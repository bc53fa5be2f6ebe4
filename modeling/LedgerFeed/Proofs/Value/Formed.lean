import LedgerFeed.Proofs.Value.Plain
import LedgerFeed.Proofs.Value.Search

namespace LedgerFeed

open Relation

variable {heap : Heap} {path : List Identity} {slot key : Slot} {identity : Identity}

def Cell.members : Cell → List Slot
  | .list items | .tuple items => items
  | .dict entries => entries.map (·.2)
  | _ => []

def Cell.isContainer : Cell → Bool
  | .list _ | .tuple _ | .dict _ => true
  | _ => false

inductive Nameless : Slot → Prop
  | buffer (kind : Buffer) (octets : List UInt8) : Nameless (.buffer kind octets)
  | object (identity : Identity) : Nameless (.object identity)
  | long {key : Slot} (digits : key.Oversized) : Nameless key

inductive Unwritable (heap : Heap) : Slot → Prop
  | buffer (kind : Buffer) (octets : List UInt8) : Unwritable heap (.buffer kind octets)
  | long {slot : Slot} (digits : slot.Oversized) : Unwritable heap slot
  | object {identity : Identity}
      (other : ∀ cell, heap[identity]? = some cell → cell.isContainer = false) :
      Unwritable heap (.object identity)
  | key {identity : Identity} {entries : List (Slot × Slot)} {entry : Slot × Slot}
      (cell : heap[identity]? = some (.dict entries)) (mem : entry ∈ entries)
      (nameless : Nameless entry.1) : Unwritable heap (.object identity)

/-- A slot that reaches something unwritable or something that contains itself. -/
def Formless (heap : Heap) (slot : Slot) : Prop :=
  ∃ node, ReflTransGen (PartOf heap Cell.members) slot node ∧
    (Unwritable heap node ∨ TransGen (PartOf heap Cell.members) node node)

theorem Formless.itself (h : Unwritable heap slot) : Formless heap slot := ⟨slot, .refl, .inl h⟩

theorem Formless.head {part : Slot} (h : Formless heap part)
    (first : PartOf heap Cell.members slot part) :
    Formless heap slot := by
  obtain ⟨node, later, fault⟩ := h
  exact ⟨node, .head first later, fault⟩

theorem nameless_iff (notBuffer : ∀ kind octets, key ≠ .buffer kind octets)
    (notObject : ∀ identity, key ≠ .object identity) : Nameless key ↔ key.Oversized := by
  constructor
  · rintro (⟨kind, octets⟩ | identity | digits)
    · exact absurd rfl (notBuffer kind octets)
    · exact absurd rfl (notObject identity)
    · exact digits
  · exact .long

theorem memberName_exists_iff : (∃ name, memberName heap key = .ok name) ↔ ¬ Nameless key := by
  cases key with
  | buffer kind octets => simp [memberName, Nameless.buffer]
  | object identity => simp [memberName, Nameless.object]
  | int n =>
      rw [nameless_iff (by simp) (by simp), Slot.oversized_int, memberName]
      split <;> simp_all
  | state n =>
      rw [nameless_iff (by simp) (by simp), Slot.oversized_state, memberName]
      split <;> simp_all
  | bool b => cases b <;> simp [nameless_iff, Slot.Oversized, memberName]
  | _ => simp [nameless_iff, Slot.Oversized, memberName]

theorem formInt_exists_iff {n : Int} :
    (∃ tree, formInt n = .ok tree) ↔ ¬ exceedsDigitLimit n = true := by
  unfold formInt
  split <;> simp_all

/-! ## What has a form -/

structure Writable (heap : Heap) (slot : Slot) : Prop where
  founded : Acc (Function.swap (PartOf heap Cell.members)) slot
  clean : ∀ node, ReflTransGen (PartOf heap Cell.members) slot node → ¬ Unwritable heap node

theorem Writable.of_parts (clean : ¬ Unwritable heap slot)
    (parts : ∀ part, PartOf heap Cell.members slot part → Writable heap part) :
    Writable heap slot where
  founded := .intro slot fun part first => (parts part first).founded
  clean node reach := by
    rcases reach.cases_head with rfl | ⟨part, first, later⟩
    · exact clean
    · exact (parts part first).clean node later

theorem Writable.plain (notObject : ∀ identity, slot ≠ .object identity)
    (clean : ¬ Unwritable heap slot) : Writable heap slot :=
  .of_parts clean fun part first => by
    cases first with
    | intro => exact absurd rfl (notObject _)

theorem acc_irrefl {α : Type} {step : α → α → Prop} {a : α} (h : Acc (Function.swap step) a) :
    ¬ TransGen step a a := by
  induction h with
  | intro a _ ih =>
      intro loop
      obtain ⟨b, first, back⟩ := TransGen.head'_iff.mp loop
      exact ih b first (TransGen.tail' back first)

theorem Writable.not_formless (h : Writable heap slot) : ¬ Formless heap slot := by
  rintro ⟨node, reach, unwritable | loop⟩
  · exact h.clean node reach unwritable
  · have founded : Acc (Function.swap (PartOf heap Cell.members)) node := by
      clear loop
      induction reach with
      | refl => exact h.founded
      | tail _ last ih => exact ih.inv last
    exact acc_irrefl founded loop

theorem not_unwritable (notBuffer : ∀ kind octets, slot ≠ .buffer kind octets)
    (notObject : ∀ identity, slot ≠ .object identity) (short : ¬ slot.Oversized) :
    ¬ Unwritable heap slot := by
  rintro (⟨kind, octets⟩ | digits | _ | _)
  · exact notBuffer kind octets rfl
  · exact short digits
  · exact notObject _ rfl
  · exact notObject _ rfl

theorem Writable.container (bound : identity < heap.size)
    (container : heap[identity].isContainer = true)
    (named : ∀ entries, heap[identity] = .dict entries → ∀ entry ∈ entries, ¬ Nameless entry.1)
    (parts : ∀ part ∈ heap[identity].members, Writable heap part) :
    Writable heap (.object identity) := by
  refine .of_parts ?_ fun part first => ?_
  · intro unwritable
    cases unwritable with
    | long digits => exact digits.plain identity rfl
    | object other =>
        have none_held := other _ (Array.getElem?_eq_getElem bound)
        rw [container] at none_held
        cases none_held
    | key found mem nameless =>
        obtain ⟨_, cell⟩ := Array.getElem?_eq_some_iff.mp found
        exact named _ cell _ mem nameless
  · obtain ⟨_, mem⟩ := first.cell
    exact parts part mem

theorem form_writable {tree : Json} (h : form heap path slot = .ok tree) : Writable heap slot := by
  fun_induction form heap path slot generalizing tree with
  | case3 path n =>
      refine .plain (by simp) (not_unwritable (by simp) (by simp) ?_)
      exact Slot.oversized_int.not.mpr (formInt_exists_iff.mp ⟨tree, h⟩)
  | case4 path n =>
      refine .plain (by simp) (not_unwritable (by simp) (by simp) ?_)
      exact Slot.oversized_state.not.mpr (formInt_exists_iff.mp ⟨tree, h⟩)
  | case1 | case2 | case5 | case6 | case7 =>
      exact .plain (by simp) (not_unwritable (by simp) (by simp) (by simp [Slot.Oversized]))
  | case10 path identity bound items cell fresh ih =>
      obtain ⟨forms, formed, -⟩ := bind_eq_ok.mp h
      refine .container bound (by rw [cell]; rfl) (by simp [cell]) fun part mem => ?_
      rw [cell] at mem
      obtain ⟨_, -, form_eq⟩ := mapM_ok_of_mem formed mem
      exact ih part form_eq
  | case12 path identity bound items cell fresh ih =>
      obtain ⟨forms, formed, -⟩ := bind_eq_ok.mp h
      refine .container bound (by rw [cell]; rfl) (by simp [cell]) fun part mem => ?_
      rw [cell] at mem
      obtain ⟨_, -, form_eq⟩ := mapM_ok_of_mem formed mem
      exact ih part form_eq
  | case14 path identity bound entries cell fresh ih =>
      obtain ⟨members, formed, -⟩ := bind_eq_ok.mp h
      have each : ∀ entry ∈ entries, ¬ Nameless entry.1 ∧ Writable heap entry.2 := by
        intro entry mem
        obtain ⟨member, -, one⟩ := mapM_ok_of_mem formed mem
        obtain ⟨name, value⟩ := formEntry_eq_ok one
        exact ⟨memberName_exists_iff.mp ⟨_, name⟩, ih entry.2 value⟩
      refine .container bound (by rw [cell]; rfl) ?_ fun part mem => ?_
      · intro others same entry mem
        rw [cell] at same
        cases same
        exact (each entry mem).1
      · rw [cell] at mem
        obtain ⟨entry, listed, rfl⟩ := List.mem_map.mp mem
        exact (each entry listed).2
  | _ => cases h

theorem formEntry_exists_iff {entry : Slot × Slot} :
    (∃ member, formEntry heap path entry = .ok member) ↔
      ¬ Nameless entry.1 ∧ ∃ tree, form heap path entry.2 = .ok tree := by
  rw [← @memberName_exists_iff heap]
  constructor
  · rintro ⟨member, formed⟩
    obtain ⟨name, value⟩ := formEntry_eq_ok formed
    exact ⟨⟨_, name⟩, _, value⟩
  · rintro ⟨⟨name, named⟩, tree, formed⟩
    exact ⟨(name, tree), by simp only [formEntry, named, formed]; rfl⟩

theorem fresh_of_formed (formed : ¬ Formless heap (.object identity))
    (inside : ∀ entered ∈ path,
      TransGen (PartOf heap Cell.members) (.object entered) (.object identity)) :
    identity ∉ path :=
  fun entered => formed ⟨_, .refl, .inr (inside identity entered)⟩

theorem part_formed {part : Slot} (bound : identity < heap.size)
    (formed : ¬ Formless heap (.object identity))
    (inside : ∀ entered ∈ path,
      TransGen (PartOf heap Cell.members) (.object entered) (.object identity))
    (mem : part ∈ heap[identity].members) :
    ¬ Formless heap part ∧
      ∀ entered ∈ identity :: path, TransGen (PartOf heap Cell.members) (.object entered) part := by
  have first : PartOf heap Cell.members (.object identity) part := partOf_cell bound mem
  exact ⟨fun fault => formed (fault.head first), inside_part first inside⟩

theorem form_exists (formed : ¬ Formless heap slot)
    (inside : ∀ entered ∈ path, TransGen (PartOf heap Cell.members) (.object entered) slot) :
    ∃ tree, form heap path slot = .ok tree := by
  -- On the walk. All that it has entered leads to the slot, so it cannot enter the slot again.
  fun_induction form heap path slot with
  | case1 | case2 | case5 | case6 | case7 => exact ⟨_, rfl⟩
  | case3 path n =>
      exact formInt_exists_iff.mpr fun long =>
        formed (.itself (.long (Slot.oversized_int.mpr long)))
  | case4 path n =>
      exact formInt_exists_iff.mpr fun long =>
        formed (.itself (.long (Slot.oversized_state.mpr long)))
  | case8 path kind octets => exact absurd (.itself (.buffer kind octets)) formed
  | case9 path identity bound items cell entered =>
      exact absurd entered (fresh_of_formed formed inside)
  | case10 path identity bound items cell fresh ih =>
      obtain ⟨forms, each⟩ := mapM_exists fun item (mem : item ∈ items) => by
        obtain ⟨clean, under⟩ := part_formed bound formed inside (by rwa [cell])
        exact ih item clean under
      exact ⟨_, bind_eq_ok.mpr ⟨forms, each, rfl⟩⟩
  | case11 path identity bound items cell entered =>
      exact absurd entered (fresh_of_formed formed inside)
  | case12 path identity bound items cell fresh ih =>
      obtain ⟨forms, each⟩ := mapM_exists fun item (mem : item ∈ items) => by
        obtain ⟨clean, under⟩ := part_formed bound formed inside (by rwa [cell])
        exact ih item clean under
      exact ⟨_, bind_eq_ok.mpr ⟨forms, each, rfl⟩⟩
  | case13 path identity bound entries cell entered =>
      exact absurd entered (fresh_of_formed formed inside)
  | case14 path identity bound entries cell fresh ih =>
      obtain ⟨members, each⟩ := mapM_exists fun entry (mem : entry ∈ entries) => by
        have held : entry.2 ∈ heap[identity].members := by
          rw [cell]
          exact List.mem_map_of_mem mem
        obtain ⟨clean, under⟩ := part_formed bound formed inside held
        have named : ¬ Nameless entry.1 := fun nameless =>
          formed (.itself (.key (Array.getElem?_eq_some_iff.mpr ⟨bound, cell⟩) mem nameless))
        exact formEntry_exists_iff.mpr ⟨named, ih entry.2 clean under⟩
      exact ⟨_, bind_eq_ok.mpr ⟨members, each, rfl⟩⟩
  | case15 path identity bound notList notTuple notDict =>
      refine absurd (.itself (.object fun cell held => ?_)) formed
      obtain ⟨_, rfl⟩ := Array.getElem?_eq_some_iff.mp held
      cases cell : heap[identity] with
      | list items => exact absurd cell (notList items)
      | tuple items => exact absurd cell (notTuple items)
      | dict entries => exact absurd cell (notDict entries)
      | _ => rfl
  | case16 path identity outside =>
      refine absurd (.itself (.object fun cell held => ?_)) formed
      exact absurd (Array.getElem?_eq_some_iff.mp held).1 outside

theorem form_exists_iff : (∃ tree, form heap [] slot = .ok tree) ↔ ¬ Formless heap slot :=
  ⟨fun ⟨_, formed⟩ => (form_writable formed).not_formless,
    fun formed => form_exists formed fun _ entered => nomatch entered⟩

end LedgerFeed
