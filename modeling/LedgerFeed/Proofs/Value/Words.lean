import LedgerFeed.Value.Order
import LedgerFeed.Proofs.Except

namespace LedgerFeed

section

variable {α : Type} {before : α → α → Except Fault Bool} {p : α → Prop}

theorem continueRun_compared (compares : ∀ a b, p a → p b → ∃ result, before a b = .ok result)
    (falling : Bool) {last : α} {rest : List α} (holds : p last) (each : ∀ x ∈ rest, p x) :
    ∃ run others, continueRun before falling last rest = .ok (run, others) ∧
      (∀ x ∈ run, p x) ∧ ∀ x ∈ others, p x := by
  induction rest generalizing last with
  | nil => exact ⟨[], [], rfl, nofun, nofun⟩
  | cons next rest ih =>
      obtain ⟨first, later⟩ := List.forall_mem_cons.mp each
      obtain ⟨result, compared⟩ := compares next last first holds
      obtain ⟨run, others, continues, inRun, inOthers⟩ := ih first later
      by_cases goesOn : result = falling
      · refine ⟨next :: run, others, ?_, List.forall_mem_cons.mpr ⟨first, inRun⟩, inOthers⟩
        simp [continueRun, compared, continues, goesOn, bind, Except.bind, pure, Except.pure]
      · refine ⟨[], next :: rest, ?_, nofun, each⟩
        simp [continueRun, compared, goesOn, bind, Except.bind, pure, Except.pure]

theorem findPlace_compared (compares : ∀ a b, p a → p b → ∃ result, before a b = .ok result)
    (sorted : Array α) {item : α} (each : ∀ x ∈ sorted, p x) (holds : p item) (low high : Nat) :
    ∃ place, findPlace before sorted item low high = .ok place := by
  induction size : high - low using Nat.strongRecOn generalizing low high with
  | ind size ih =>
      rw [findPlace]
      split
      · rename_i within
        dsimp only
        split
        · rename_i other found
          obtain ⟨result, compared⟩ :=
            compares item other holds (each other (Array.mem_of_getElem? found))
          rw [compared]
          cases result with
          | true => exact ih _ (by omega) low _ rfl
          | false => exact ih _ (by omega) _ high rfl
        · exact ⟨low, rfl⟩
      · exact ⟨low, rfl⟩

theorem insertSorted_compared (compares : ∀ a b, p a → p b → ∃ result, before a b = .ok result)
    {sorted : List α} {item : α} (each : ∀ x ∈ sorted, p x) (holds : p item) :
    ∃ next, insertSorted before sorted item = .ok next ∧ ∀ x ∈ next, p x := by
  obtain ⟨place, found⟩ := findPlace_compared compares sorted.toArray
    (by simpa using each) holds 0 sorted.length
  refine ⟨_, by rw [insertSorted, found]; rfl, fun x listed => ?_⟩
  rcases List.mem_append.mp listed with early | late
  · exact each x (List.mem_of_mem_take early)
  · rcases List.mem_cons.mp late with rfl | late
    · exact holds
    · exact each x (List.mem_of_mem_drop late)

theorem insertAll_compared (compares : ∀ a b, p a → p b → ∃ result, before a b = .ok result)
    {items sorted : List α} (each : ∀ x ∈ sorted, p x) (others : ∀ x ∈ items, p x) :
    ∃ next, items.foldlM (insertSorted before) sorted = .ok next := by
  induction items generalizing sorted with
  | nil => exact ⟨sorted, rfl⟩
  | cons item items ih =>
      obtain ⟨first, later⟩ := List.forall_mem_cons.mp others
      obtain ⟨next, inserted, kept⟩ := insertSorted_compared compares each first
      rw [List.foldlM_cons, inserted]
      exact ih kept later

theorem sortBy_compared (compares : ∀ a b, p a → p b → ∃ result, before a b = .ok result)
    {items : List α} (each : ∀ x ∈ items, p x) : ∃ sorted, sortBy before items = .ok sorted := by
  unfold sortBy
  split
  · rename_i first second rest
    obtain ⟨one, later⟩ := List.forall_mem_cons.mp each
    obtain ⟨two, later⟩ := List.forall_mem_cons.mp later
    obtain ⟨falling, compared⟩ := compares second first two one
    obtain ⟨run, others, continues, inRun, inOthers⟩ :=
      continueRun_compared compares falling two later
    have front : ∀ x ∈ first :: second :: run, p x :=
      List.forall_mem_cons.mpr ⟨one, List.forall_mem_cons.mpr ⟨two, inRun⟩⟩
    rw [compared]
    simp only [bind, Except.bind, continues]
    refine insertAll_compared compares ?_ inOthers
    split
    · exact fun x listed => front x (List.mem_reverse.mp listed)
    · exact front
  · exact ⟨_, rfl⟩

end

def Texts (slots : List Slot) : Prop := ∀ slot ∈ slots, slot.text?.isSome

theorem sameWithin_text {shared : Bool} {rounds : Nat} {left right : Heap} {a b : Slot}
    {name : Text} (text : b.text? = some name) :
    sameWithin shared (rounds + 1) left right a b = decide (a.text? = some name) := by
  cases b with
  | text | channel =>
      cases a <;> simp_all [sameWithin, Slot.text?]
  | null | bool | int | float | state | buffer | object => cases text

theorem sortSlots_texts (heap : Heap) {slots : List Slot} (texts : Texts slots) :
    ∃ sorted, sortSlots heap slots = .ok sorted := by
  refine sortBy_compared (fun a b first second => ?_) texts
  obtain ⟨s, first⟩ := Option.isSome_iff_exists.mp first
  obtain ⟨t, second⟩ := Option.isSome_iff_exists.mp second
  exact ⟨listBefore (s.map Letter.code) (t.map Letter.code), by simp [slotBefore, beforeWithin, first, second]⟩

theorem checkKey_text {value : Value} (text : value.text?.isSome) : value.checkKey = .ok () := by
  obtain ⟨heap, slot⟩ := value
  cases slot with
  | text | channel => rfl
  | null | bool | int | float | state | buffer | object => exact absurd text Bool.false_ne_true

def contents (slots : List Slot) : List Text := slots.filterMap Slot.text?

theorem added_texts (heap : Heap) {found : List Slot} {item : Slot} (texts : Texts found)
    {content : Text} (named : item.text? = some content) :
    let next := if found.any (sameKey heap · item) then found else found ++ [item]
    Texts next ∧ ∀ name, name ∈ contents next ↔ name ∈ contents found ∨ name = content := by
  have same (other : Slot) : sameKey heap other item = decide (other.text? = some content) :=
    sameWithin_text named
  simp only [same, List.any_eq_true, decide_eq_true_eq]
  split
  · rename_i held
    obtain ⟨other, listed, alike⟩ := held
    refine ⟨texts, fun name => ⟨.inl, fun either => either.elim id fun given => ?_⟩⟩
    exact List.mem_filterMap.mpr ⟨other, listed, given ▸ alike⟩
  · refine ⟨List.forall_mem_append.mpr ⟨texts, by simp [named]⟩, fun name => ?_⟩
    simp [contents, named]

theorem setOf_adds (heap : Heap) {items found : List Slot} (texts : Texts items)
    (before : Texts found) : ∃ final,
      items.foldlM (fun found item => do
        Value.checkKey ⟨heap, item⟩
        pure (if found.any (sameKey heap · item) then found else found ++ [item])) found =
          (.ok final : Except Fault (List Slot)) ∧
      Texts final ∧ ∀ name, name ∈ contents final ↔ name ∈ contents found ∨ name ∈ contents items := by
  induction items generalizing found with
  | nil => exact ⟨found, rfl, before, by simp [contents]⟩
  | cons item items ih =>
      obtain ⟨first, later⟩ := List.forall_mem_cons.mp texts
      obtain ⟨content, named⟩ := Option.isSome_iff_exists.mp first
      obtain ⟨all, names⟩ := added_texts heap before named
      obtain ⟨final, run, allOf, namesOf⟩ := ih later all
      refine ⟨final, ?_, allOf, fun name => ?_⟩
      · have keyed : Value.checkKey ⟨heap, item⟩ = .ok () := checkKey_text first
        rw [List.foldlM_cons, keyed]
        exact run
      · rw [namesOf, names, or_assoc]
        simp [contents, named]

theorem setOf_texts (heap : Heap) {items : List Slot} (texts : Texts items) :
    ∃ found, setOf heap items = .ok found ∧ Texts found ∧
      ∀ name, name ∈ contents found ↔ name ∈ contents items := by
  obtain ⟨final, run, all, names⟩ := setOf_adds heap texts (nofun : Texts [])
  exact ⟨final, run, all, fun name => (names name).trans (by simp [contents])⟩

end LedgerFeed
