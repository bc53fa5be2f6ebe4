import LedgerFeed.Proofs.Value.Plain

namespace LedgerFeed

variable {heap : Heap} {p : Binary64 → Prop}

def AllFloats (p : Binary64 → Prop) (heap : Heap) (slot : Slot) : Prop :=
  ∀ x, Reaches heap slot (.float x) → p x

theorem allFloats_items {identity : Identity} {items : List Slot}
    (cell : heap[identity]? = some (.list items) ∨ heap[identity]? = some (.tuple items)) :
    AllFloats p heap (.object identity) ↔ ∀ item ∈ items, AllFloats p heap item := by
  constructor
  · intro h item mem x later
    exact h x (.item cell mem later)
  · intro h x hx
    cases hx with
    | item other mem later =>
        rcases cell with cell | cell <;> rcases other with other | other <;>
          rw [cell] at other <;> cases other
        · exact h _ mem x later
        · exact h _ mem x later
    | value other mem later => rcases cell with cell | cell <;> rw [cell] at other <;> cases other

theorem allFloats_values {identity : Identity} {entries : List (Slot × Slot)}
    (cell : heap[identity]? = some (.dict entries)) :
    AllFloats p heap (.object identity) ↔ ∀ entry ∈ entries, AllFloats p heap entry.2 := by
  constructor
  · intro h entry mem x later
    exact h x (.value cell mem later)
  · intro h x hx
    cases hx with
    | item other mem later => rcases other with other | other <;> rw [cell] at other <;> cases other
    | value other mem later =>
        rw [cell] at other
        cases other
        exact h _ mem x later

theorem allFloats_leaf {slot : Slot} (leaf : ∀ identity, slot ≠ .object identity)
    (exact : ∀ x, slot ≠ .float x) : AllFloats p heap slot := by
  intro x hx
  cases hx with
  | itself => exact absurd rfl (exact x)
  | item => exact absurd rfl (leaf _)
  | value => exact absurd rfl (leaf _)

theorem floats_forms {path : List Identity} {items : List Slot} {forms : List Json}
    (ih : ∀ item j, form heap path item = .ok j → (j.Floats p ↔ AllFloats p heap item))
    (h : (items.mapM fun item => form heap path item) = .ok forms) :
    (Json.array forms).Floats p ↔ ∀ item ∈ items, AllFloats p heap item := by
  have pairs := mapM_eq_ok.mp h
  have parts : (Json.array forms).Floats p ↔ ∀ j ∈ forms, j.Floats p :=
    ⟨fun h => by cases h; assumption, .array⟩
  rw [parts]
  clear h parts
  induction pairs with
  | nil => simp
  | cons one _ rest =>
      rw [List.forall_mem_cons, List.forall_mem_cons]
      exact and_congr (ih _ _ one) rest

theorem floats_members {path : List Identity} {entries : List (Slot × Slot)}
    {members : List (Text × Json)}
    (ih : ∀ entry ∈ entries, ∀ j, form heap path entry.2 = .ok j →
      (j.Floats p ↔ AllFloats p heap entry.2))
    (h : entries.mapM (formEntry heap path) = .ok members) :
    (Json.object members).Floats p ↔ ∀ entry ∈ entries, AllFloats p heap entry.2 := by
  have pairs := mapM_eq_ok.mp h
  have parts : (Json.object members).Floats p ↔ ∀ member ∈ members, member.2.Floats p :=
    ⟨fun h => by cases h; assumption, .object⟩
  rw [parts]
  clear h parts
  induction pairs with
  | nil => simp
  | cons one _ rest =>
      obtain ⟨head, tail⟩ := List.forall_mem_cons.mp ih
      rw [List.forall_mem_cons, List.forall_mem_cons]
      exact and_congr (head _ (formEntry_eq_ok one).2) (rest tail)

theorem formInt_floats {n : Int} {j : Json} (h : formInt n = .ok j) : j.Floats p := by
  unfold formInt at h
  split at h <;> cases h
  exact .int n

theorem form_floats {path : List Identity} {slot : Slot} {j : Json}
    (h : form heap path slot = .ok j) : j.Floats p ↔ AllFloats p heap slot := by
  have leaf {slot : Slot} {j : Json} (floats : j.Floats p)
      (object : ∀ identity, slot ≠ .object identity) (exact : ∀ x, slot ≠ .float x) :
      j.Floats p ↔ AllFloats p heap slot :=
    ⟨fun _ => allFloats_leaf object exact, fun _ => floats⟩
  fun_induction form heap path slot generalizing j with
  | case1 | case2 | case6 | case7 =>
      cases h
      exact leaf (by constructor) (by simp) (by simp)
  | case3 | case4 => exact leaf (formInt_floats h) (by simp) (by simp)
  | case5 path x =>
      cases h
      constructor
      · intro one y hy
        cases one
        cases hy
        assumption
      · intro all
        exact .float (all x (.itself _))
  | case10 path identity bound items cell fresh ih =>
      have found := Array.getElem?_eq_some_iff.mpr ⟨bound, cell⟩
      obtain ⟨forms, hforms, h⟩ := bind_eq_ok.mp h
      cases h
      rw [allFloats_items (.inl found)]
      exact floats_forms (fun item j => ih item) hforms
  | case12 path identity bound items cell fresh ih =>
      have found := Array.getElem?_eq_some_iff.mpr ⟨bound, cell⟩
      obtain ⟨forms, hforms, h⟩ := bind_eq_ok.mp h
      cases h
      rw [allFloats_items (.inr found)]
      exact floats_forms (fun item j => ih item) hforms
  | case14 path identity bound entries cell fresh ih =>
      have found := Array.getElem?_eq_some_iff.mpr ⟨bound, cell⟩
      obtain ⟨members, hmembers, h⟩ := bind_eq_ok.mp h
      cases h
      rw [allFloats_values found]
      exact floats_members (fun entry _ j => ih entry.2) hmembers
  | _ => cases h

end LedgerFeed
