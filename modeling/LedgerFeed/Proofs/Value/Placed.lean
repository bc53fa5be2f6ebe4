import LedgerFeed.Proofs.Json.Tidy
import LedgerFeed.Value.Form

namespace LedgerFeed

namespace Heap

def Extends (earlier later : Heap) : Prop :=
  ∀ (identity : Identity) (cell : Cell),
    earlier[identity]? = some cell → later[identity]? = some cell

theorem Extends.refl (heap : Heap) : heap.Extends heap := fun _ _ h => h

theorem Extends.trans {first second third : Heap} (h : first.Extends second)
    (h' : second.Extends third) : first.Extends third :=
  fun identity cell found => h' identity cell (h identity cell found)

theorem Extends.size_le {earlier later : Heap} (h : earlier.Extends later) :
    earlier.size ≤ later.size := by
  by_contra hlt
  have bound : later.size < earlier.size := by omega
  have found := h later.size earlier[later.size] (Array.getElem?_eq_getElem bound)
  simp at found

theorem alloc_extends (heap : Heap) (cell : Cell) : heap.Extends (heap.alloc cell).1 := by
  intro identity found h
  have bound : identity < heap.size := (Array.getElem?_eq_some_iff.mp h).1
  simp only [alloc, Array.getElem?_push_lt bound]
  rw [← Array.getElem?_eq_getElem bound, h]

theorem alloc_cell (heap : Heap) (cell : Cell) : (heap.alloc cell).1[heap.size]? = some cell := by
  simp [alloc]

end Heap

theorem form_list {heap : Heap} {path : List Identity} {identity : Identity} {items : List Slot}
    (h : heap[identity]? = some (.list items)) (fresh : identity ∉ path) :
    form heap path (.object identity) =
      (items.mapM fun item => form heap (identity :: path) item).map Json.array := by
  obtain ⟨bound, cell⟩ := Array.getElem?_eq_some_iff.mp h
  rw [form.eq_def]
  simp only [dif_pos bound, cell, dif_neg fresh]
  cases items.mapM fun item => form heap (identity :: path) item <;> rfl

def formEntry (heap : Heap) (path : List Identity) (entry : Slot × Slot) :
    Except FormError (Text × Json) := do
  let name ← memberName heap entry.1
  let value ← form heap path entry.2
  pure (name, value)

theorem formEntry_eq_ok {heap : Heap} {path : List Identity} {entry : Slot × Slot}
    {member : Text × Json} (h : formEntry heap path entry = .ok member) :
    memberName heap entry.1 = .ok member.1 ∧ form heap path entry.2 = .ok member.2 := by
  obtain ⟨name, hname, h⟩ := bind_eq_ok.mp h
  obtain ⟨value, hvalue, h⟩ := bind_eq_ok.mp h
  cases h
  exact ⟨hname, hvalue⟩

theorem form_dict {heap : Heap} {path : List Identity} {identity : Identity}
    {entries : List (Slot × Slot)} (h : heap[identity]? = some (.dict entries))
    (fresh : identity ∉ path) :
    form heap path (.object identity) =
      (entries.mapM (formEntry heap (identity :: path))).map Json.object := by
  obtain ⟨bound, cell⟩ := Array.getElem?_eq_some_iff.mp h
  rw [form.eq_def]
  simp only [dif_pos bound, cell, dif_neg fresh]
  change (do
    let members ← entries.mapM (formEntry heap (identity :: path))
    pure (Json.object members)) = _
  cases entries.mapM (formEntry heap (identity :: path)) <;> rfl

/-- A tree placed from this heap on is found in every later heap, outside what holds it. -/
def Placed (heap placed : Heap) (slot : Slot) (j : Json) : Prop :=
  heap.Extends placed ∧ ∀ later path, placed.Extends later → (∀ identity ∈ path, placed.size ≤ identity) →
    form later path slot = .ok j

theorem placeItems_placed {items : List Json}
    (h : ∀ item ∈ items, ∀ heap, Placed heap (item.place heap).1 (item.place heap).2 item)
    (heap : Heap) :
    heap.Extends (Json.placeItems heap items).1 ∧ ∀ later path,
      (Json.placeItems heap items).1.Extends later →
      (∀ identity ∈ path, (Json.placeItems heap items).1.size ≤ identity) →
      (Json.placeItems heap items).2.mapM (form later path) = .ok items := by
  induction items generalizing heap with
  | nil => exact ⟨.refl heap, fun _ _ _ _ => rfl⟩
  | cons item rest ih =>
      obtain ⟨first, found⟩ := h item List.mem_cons_self heap
      obtain ⟨second, others⟩ :=
        ih (fun i hi => h i (List.mem_cons_of_mem _ hi)) (item.place heap).1
      refine ⟨first.trans second, fun later path hlater hpath => ?_⟩
      have size := second.size_le
      have head := found later path (second.trans hlater)
        (fun identity hid => Nat.le_trans size (hpath identity hid))
      simp only [Json.placeItems, List.mapM_cons, head, others later path hlater hpath]
      rfl

theorem placeMembers_placed {members : List (Text × Json)}
    (h : ∀ member ∈ members, ∀ heap,
      Placed heap (member.2.place heap).1 (member.2.place heap).2 member.2)
    (heap : Heap) :
    heap.Extends (Json.placeMembers heap members).1 ∧ ∀ later path,
      (Json.placeMembers heap members).1.Extends later →
      (∀ identity ∈ path, (Json.placeMembers heap members).1.size ≤ identity) →
      (Json.placeMembers heap members).2.mapM (formEntry later path) = .ok members := by
  induction members generalizing heap with
  | nil => exact ⟨.refl heap, fun _ _ _ _ => rfl⟩
  | cons member rest ih =>
      rcases member with ⟨name, value⟩
      obtain ⟨first, found⟩ := h (name, value) List.mem_cons_self heap
      obtain ⟨second, others⟩ :=
        ih (fun m hm => h m (List.mem_cons_of_mem _ hm)) (value.place heap).1
      refine ⟨first.trans second, fun later path hlater hpath => ?_⟩
      have size := second.size_le
      have head := found later path (second.trans hlater)
        (fun identity hid => Nat.le_trans size (hpath identity hid))
      simp only [Json.placeMembers, List.mapM_cons, formEntry, memberName, head,
        others later path hlater hpath]
      rfl

theorem alloc_below {grown later : Heap} {cell : Cell} {path : List Identity}
    (hlater : (grown.alloc cell).1.Extends later)
    (hpath : ∀ identity ∈ path, (grown.alloc cell).1.size ≤ identity) :
    later[grown.size]? = some cell ∧ grown.size ∉ path ∧ grown.Extends later ∧
      ∀ identity ∈ grown.size :: path, grown.size ≤ identity := by
  have size : (grown.alloc cell).1.size = grown.size + 1 := by simp [Heap.alloc]
  refine ⟨hlater _ _ (Heap.alloc_cell grown cell), fun hid => ?_,
    (Heap.alloc_extends grown cell).trans hlater, fun identity hid => ?_⟩
  · have := hpath grown.size hid
    omega
  · rcases List.mem_cons.mp hid with rfl | hid
    · exact Nat.le_refl _
    · have := hpath identity hid
      omega

theorem place_placed {j : Json} (h : j.Tidy) (heap : Heap) :
    Placed heap (j.place heap).1 (j.place heap).2 j := by
  induction h generalizing heap with
  | null => exact ⟨.refl heap, fun _ _ _ _ => by rw [Json.place, form.eq_def]⟩
  | bool b => exact ⟨.refl heap, fun _ _ _ _ => by rw [Json.place, form.eq_def]⟩
  | int short =>
      refine ⟨.refl heap, fun _ _ _ _ => ?_⟩
      rw [Json.place, form.eq_def]
      simp only [formInt, short, Bool.false_eq_true, ↓reduceIte]
  | float x => exact ⟨.refl heap, fun _ _ _ _ => by rw [Json.place, form.eq_def]⟩
  | string s => exact ⟨.refl heap, fun _ _ _ _ => by rw [Json.place, form.eq_def]⟩
  | @array items inner ih =>
      obtain ⟨first, found⟩ := placeItems_placed ih heap
      refine ⟨first.trans (Heap.alloc_extends _ _), fun later path hlater hpath => ?_⟩
      obtain ⟨cell, fresh, within, above⟩ := alloc_below hlater hpath
      exact (form_list cell fresh).trans (map_eq_ok.mpr ⟨items, found later _ within above, rfl⟩)
  | @object members once inner ih =>
      obtain ⟨first, found⟩ := placeMembers_placed ih heap
      refine ⟨first.trans (Heap.alloc_extends _ _), fun later path hlater hpath => ?_⟩
      obtain ⟨cell, fresh, within, above⟩ := alloc_below hlater hpath
      exact (form_dict cell fresh).trans (map_eq_ok.mpr ⟨members, found later _ within above, rfl⟩)

theorem form_toValue {j : Json} (h : j.Tidy) : j.toValue.form = .ok j :=
  (place_placed h Heap.empty).2 _ [] (.refl _) (fun _ hid => by cases hid)

end LedgerFeed
