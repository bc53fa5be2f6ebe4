import Mathlib.Data.List.Nodup
import LedgerFeed.Proofs.Value.Placed

namespace LedgerFeed

structure TextKeys (entries : List (Slot × Slot)) : Prop where
  texts : ∀ entry ∈ entries, ∃ name, entry.1.text? = some name
  once : (entries.map fun entry => entry.1.text?).Nodup

inductive Reaches (heap : Heap) : Slot → Slot → Prop
  | itself (slot : Slot) : Reaches heap slot slot
  | item {identity : Identity} {items : List Slot} {item slot : Slot}
      (cell : heap[identity]? = some (.list items) ∨ heap[identity]? = some (.tuple items))
      (mem : item ∈ items) (later : Reaches heap item slot) :
      Reaches heap (.object identity) slot
  | value {identity : Identity} {entries : List (Slot × Slot)} {entry : Slot × Slot} {slot : Slot}
      (cell : heap[identity]? = some (.dict entries)) (mem : entry ∈ entries)
      (later : Reaches heap entry.2 slot) : Reaches heap (.object identity) slot

structure Plain (heap : Heap) (root : Slot) : Prop where
  exact : ∀ x, ¬ Reaches heap root (.float x)
  keyed : ∀ identity entries, Reaches heap root (.object identity) →
    heap[identity]? = some (.dict entries) → TextKeys entries

theorem Plain.of_reaches {heap : Heap} {root part : Slot} (h : Plain heap root)
    (hpart : ∀ slot, Reaches heap part slot → Reaches heap root slot) : Plain heap part where
  exact x hx := h.exact x (hpart _ hx)
  keyed identity entries hobject := h.keyed identity entries (hpart _ hobject)

theorem memberName_text {heap : Heap} {key : Slot} {name : Text} (h : key.text? = some name) :
    memberName heap key = .ok name := by
  unfold Slot.text? at h
  split at h <;> cases h <;> rfl

theorem formInt_faithful {n : Int} {j : Json} (h : formInt n = .ok j) : j.Faithful := by
  unfold formInt at h
  split at h <;> cases h
  rename_i short
  exact .int (by simpa using short)

theorem formEntries_members {heap : Heap} {path : List Identity} {entries : List (Slot × Slot)}
    {members : List (Text × Json)} (keys : TextKeys entries)
    (inner : ∀ entry ∈ entries, ∀ j, form heap path entry.2 = .ok j → j.Faithful)
    (h : entries.mapM (formEntry heap path) = .ok members) : (Json.object members).Faithful := by
  have pairs := mapM_eq_ok.mp h
  have names : members.map (fun member => some member.1) = entries.map fun entry => entry.1.text? := by
    have texts := keys.texts
    clear keys inner h
    induction pairs with
    | nil => rfl
    | cons hm _ ih =>
        obtain ⟨name, hname⟩ := texts _ List.mem_cons_self
        have same := (formEntry_eq_ok hm).1
        rw [memberName_text hname] at same
        cases same
        rw [List.map_cons, List.map_cons, hname, ih fun e he => texts e (List.mem_cons_of_mem _ he)]
  have once : (members.map (·.1)).Nodup := by
    have := keys.once
    rw [← names] at this
    rw [← Function.comp_def, ← List.map_map] at this
    exact this.of_map some
  refine .object once fun member hm => ?_
  obtain ⟨e, he, hform⟩ := mapM_mem h hm
  exact inner e he _ (formEntry_eq_ok hform).2

theorem form_faithful {heap : Heap} {path : List Identity} {slot : Slot} {j : Json}
    (hp : Plain heap slot) (h : form heap path slot = .ok j) : j.Faithful := by
  have array {identity : Identity} {items : List Slot} {inner : List Identity}
      (hp : Plain heap (.object identity))
      (cell : heap[identity]? = some (.list items) ∨ heap[identity]? = some (.tuple items))
      (ih : ∀ item j, Plain heap item → form heap inner item = .ok j → j.Faithful) {j : Json}
      (h : (do
        let forms ← items.mapM fun item => form heap inner item
        pure (Json.array forms)) = .ok j) : j.Faithful := by
    obtain ⟨forms, hforms, h⟩ := bind_eq_ok.mp h
    cases h
    refine .array fun item hitem => ?_
    obtain ⟨part, hpart, hform⟩ := mapM_mem hforms hitem
    exact ih part item (hp.of_reaches fun slot later => .item cell hpart later) hform
  fun_induction form heap path slot generalizing j with
  | case1 | case2 | case6 | case7 =>
      cases h
      constructor
  | case3 | case4 => exact formInt_faithful h
  | case5 => exact absurd (.itself _) (hp.exact _)
  | case10 path identity bound items cell fresh ih =>
      exact array hp (.inl (Array.getElem?_eq_some_iff.mpr ⟨bound, cell⟩)) (fun _ _ => ih _) h
  | case12 path identity bound items cell fresh ih =>
      exact array hp (.inr (Array.getElem?_eq_some_iff.mpr ⟨bound, cell⟩)) (fun _ _ => ih _) h
  | case14 path identity bound entries cell fresh ih =>
      have found := Array.getElem?_eq_some_iff.mpr ⟨bound, cell⟩
      obtain ⟨members, hmembers, h⟩ := bind_eq_ok.mp h
      cases h
      exact formEntries_members (hp.keyed identity entries (.itself _) found)
        (fun entry he j hj => ih entry.2
          (hp.of_reaches fun slot later => .value found he later) hj) hmembers
  | _ => cases h

end LedgerFeed
