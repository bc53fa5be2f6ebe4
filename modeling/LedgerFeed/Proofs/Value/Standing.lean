import LedgerFeed.Proofs.Value.Plain

namespace LedgerFeed

inductive Stands (heap : Heap) : Slot → Json → Prop
  | null : Stands heap .null .null
  | bool (b : Bool) : Stands heap (.bool b) (.bool b)
  | int (n : Int) : Stands heap (.int n) (.int n)
  | state (n : Int) : Stands heap (.state n) (.int n)
  | text (s : Text) : Stands heap (.text s) (.string s)
  | channel (c : Channel) : Stands heap (.channel c) (.string c.name)
  | list {identity : Identity} {items : List Slot} {trees : List Json}
      (cell : heap[identity]? = some (.list items)) (size : items.length = trees.length)
      (parts : ∀ part ∈ items.zip trees, Stands heap part.1 part.2) :
      Stands heap (.object identity) (.array trees)
  | dict {identity : Identity} {entries : List (Slot × Slot)} {members : List (Text × Json)}
      (cell : heap[identity]? = some (.dict entries))
      (names : entries.map (fun entry => entry.1.text?) = members.map fun member => some member.1)
      (parts : ∀ part ∈ entries.zip members, Stands heap part.1.2 part.2.2) :
      Stands heap (.object identity) (.object members)

def Value.Stands (value : Value) (tree : Json) : Prop :=
  LedgerFeed.Stands value.heap value.slot tree

/-- Equal in every part, and with the entries of dictionaries in the same order. -/
def Value.Matches (left right : Value) : Prop := ∃ tree, left.Stands tree ∧ right.Stands tree

namespace Stands

variable {heap later : Heap} {slot : Slot} {tree : Json}

theorem extend (h : Stands heap slot tree) (grows : heap.Extends later) :
    Stands later slot tree := by
  induction h with
  | null => exact .null
  | bool b => exact .bool b
  | int n => exact .int n
  | state n => exact .state n
  | text s => exact .text s
  | channel c => exact .channel c
  | list cell size _ ih => exact .list (grows _ _ cell) size ih
  | dict cell names _ ih => exact .dict (grows _ _ cell) names ih

theorem word (w : Word) : Stands heap w.slot (.string w.content) := by
  cases w with
  | text s => exact .text s
  | channel c => exact .channel c

theorem alloc_list {items : List Slot} {trees : List Json}
    (parts : List.Forall₂ (Stands heap) items trees) :
    Stands (heap.alloc (.list items)).1 (heap.alloc (.list items)).2 (.array trees) := by
  refine .list (Heap.alloc_cell heap _) parts.length_eq fun part hpart => ?_
  exact ((List.forall₂_iff_zip.mp parts).2 hpart).extend (Heap.alloc_extends heap _)

def Entry (heap : Heap) (entry : Slot × Slot) (member : Text × Json) : Prop :=
  entry.1.text? = some member.1 ∧ Stands heap entry.2 member.2

theorem Entry.extend {entry : Slot × Slot} {member : Text × Json} (h : Entry heap entry member)
    (grows : heap.Extends later) : Entry later entry member :=
  ⟨h.1, h.2.extend grows⟩

theorem entries_names {entries : List (Slot × Slot)} {members : List (Text × Json)}
    (h : List.Forall₂ (Entry heap) entries members) :
    entries.map (fun entry => entry.1.text?) = members.map fun member => some member.1 := by
  induction h with
  | nil => rfl
  | cons first _ ih => rw [List.map_cons, List.map_cons, first.1, ih]

theorem of_entries {identity : Identity} {entries : List (Slot × Slot)}
    {members : List (Text × Json)} (cell : heap[identity]? = some (.dict entries))
    (h : List.Forall₂ (Entry heap) entries members) :
    Stands heap (.object identity) (.object members) :=
  .dict cell (entries_names h) fun _ hpart => ((List.forall₂_iff_zip.mp h).2 hpart).2

theorem alloc_dict {entries : List (Slot × Slot)} {members : List (Text × Json)}
    (parts : List.Forall₂ (Entry heap) entries members) :
    Stands (heap.alloc (.dict entries)).1 (heap.alloc (.dict entries)).2 (.object members) :=
  of_entries (Heap.alloc_cell heap _)
    (parts.imp fun _ _ part => part.extend (Heap.alloc_extends heap _))

end Stands

/-! ## Values of trees -/

theorem placeItems_stands {items : List Json}
    (h : ∀ item ∈ items, ∀ heap, heap.Extends (item.place heap).1 ∧
      Stands (item.place heap).1 (item.place heap).2 item) (heap : Heap) :
    heap.Extends (Json.placeItems heap items).1 ∧
      List.Forall₂ (Stands (Json.placeItems heap items).1) (Json.placeItems heap items).2 items := by
  induction items generalizing heap with
  | nil => exact ⟨.refl heap, .nil⟩
  | cons item rest ih =>
      obtain ⟨grows, first⟩ := h item List.mem_cons_self heap
      obtain ⟨further, others⟩ :=
        ih (fun i hi => h i (List.mem_cons_of_mem _ hi)) (item.place heap).1
      exact ⟨grows.trans further, .cons (first.extend further) others⟩

theorem placeMembers_stands {members : List (Text × Json)}
    (h : ∀ member ∈ members, ∀ heap, heap.Extends (member.2.place heap).1 ∧
      Stands (member.2.place heap).1 (member.2.place heap).2 member.2) (heap : Heap) :
    heap.Extends (Json.placeMembers heap members).1 ∧
      List.Forall₂ (Stands.Entry (Json.placeMembers heap members).1)
        (Json.placeMembers heap members).2 members := by
  induction members generalizing heap with
  | nil => exact ⟨.refl heap, .nil⟩
  | cons member rest ih =>
      obtain ⟨grows, first⟩ := h member List.mem_cons_self heap
      obtain ⟨further, others⟩ :=
        ih (fun m hm => h m (List.mem_cons_of_mem _ hm)) (member.2.place heap).1
      exact ⟨grows.trans further, .cons ⟨rfl, first.extend further⟩ others⟩

theorem place_stands {tree : Json} (h : tree.Faithful) (heap : Heap) :
    heap.Extends (tree.place heap).1 ∧ Stands (tree.place heap).1 (tree.place heap).2 tree := by
  induction h generalizing heap with
  | null => exact ⟨.refl heap, .null⟩
  | bool b => exact ⟨.refl heap, .bool b⟩
  | @int n _ => exact ⟨.refl heap, .int n⟩
  | string s => exact ⟨.refl heap, .text s⟩
  | array _ ih =>
      obtain ⟨grows, parts⟩ := placeItems_stands ih heap
      exact ⟨grows.trans (Heap.alloc_extends _ _), Stands.alloc_list parts⟩
  | object _ _ ih =>
      obtain ⟨grows, parts⟩ := placeMembers_stands ih heap
      exact ⟨grows.trans (Heap.alloc_extends _ _), Stands.alloc_dict parts⟩

theorem toValue_stands {tree : Json} (h : tree.Faithful) : tree.toValue.Stands tree :=
  (place_stands h Heap.empty).2

/-! ## Values that their text determines -/

/-- A plain value without tuples, whose text would be that of lists. -/
structure Recoverable (heap : Heap) (root : Slot) : Prop extends Plain heap root where
  untupled : ∀ identity items, Reaches heap root (.object identity) →
    heap[identity]? ≠ some (.tuple items)

theorem Recoverable.of_reaches {heap : Heap} {root part : Slot} (h : Recoverable heap root)
    (hpart : ∀ slot, Reaches heap part slot → Reaches heap root slot) : Recoverable heap part where
  toPlain := h.toPlain.of_reaches hpart
  untupled identity items hobject := h.untupled identity items (hpart _ hobject)

theorem formEntry_entry {heap : Heap} {path : List Identity} {entry : Slot × Slot}
    {member : Text × Json} (named : ∃ name, entry.1.text? = some name)
    (stands : ∀ tree, form heap path entry.2 = .ok tree → Stands heap entry.2 tree)
    (h : formEntry heap path entry = .ok member) : Stands.Entry heap entry member := by
  obtain ⟨name, hname⟩ := named
  obtain ⟨hfound, hvalue⟩ := formEntry_eq_ok h
  rw [memberName_text hname] at hfound
  cases hfound
  exact ⟨hname, stands _ hvalue⟩

theorem formEntries_entries {heap : Heap} {path : List Identity} {entries : List (Slot × Slot)}
    {members : List (Text × Json)} (keys : TextKeys entries)
    (stands : ∀ entry ∈ entries, ∀ tree, form heap path entry.2 = .ok tree →
      Stands heap entry.2 tree)
    (h : entries.mapM (formEntry heap path) = .ok members) :
    List.Forall₂ (Stands.Entry heap) entries members := by
  have formed := mapM_eq_ok.mp h
  refine List.forall₂_iff_zip.mpr ⟨formed.length_eq, fun {entry member} hpair => ?_⟩
  have listed := (List.of_mem_zip hpair).1
  exact formEntry_entry (keys.texts entry listed) (stands entry listed)
    ((List.forall₂_iff_zip.mp formed).2 hpair)

theorem form_stands {heap : Heap} {path : List Identity} {slot : Slot} {tree : Json}
    (hr : Recoverable heap slot) (h : form heap path slot = .ok tree) : Stands heap slot tree := by
  fun_induction form heap path slot generalizing tree with
  | case1 =>
      cases h
      exact .null
  | case2 path b =>
      cases h
      exact .bool b
  | case3 path n =>
      unfold formInt at h
      split at h <;> cases h
      exact .int n
  | case4 path n =>
      unfold formInt at h
      split at h <;> cases h
      exact .state n
  | case5 => exact absurd (.itself _) (hr.exact _)
  | case6 path s =>
      cases h
      exact .text s
  | case7 path c =>
      cases h
      exact .channel c
  | case10 path identity bound items cell fresh ih =>
      have found := Array.getElem?_eq_some_iff.mpr ⟨bound, cell⟩
      obtain ⟨forms, hforms, h⟩ := bind_eq_ok.mp h
      cases h
      have formed := mapM_eq_ok.mp hforms
      refine .list found formed.length_eq fun part hpart => ?_
      have listed := (List.of_mem_zip hpart).1
      exact ih part.1 (hr.of_reaches fun slot later => .item (.inl found) listed later)
        ((List.forall₂_iff_zip.mp formed).2 hpart)
  | case12 path identity bound items cell fresh ih =>
      have found := Array.getElem?_eq_some_iff.mpr ⟨bound, cell⟩
      exact absurd found (hr.untupled identity items (.itself _))
  | case14 path identity bound entries cell fresh ih =>
      have found := Array.getElem?_eq_some_iff.mpr ⟨bound, cell⟩
      obtain ⟨members, hmembers, h⟩ := bind_eq_ok.mp h
      cases h
      have keys := hr.keyed identity entries (.itself _) found
      refine Stands.of_entries found
        (formEntries_entries keys (fun entry he value hvalue => ?_) hmembers)
      exact ih entry.2 (hr.of_reaches fun slot later => .value found he later) hvalue
  | _ => cases h

end LedgerFeed
