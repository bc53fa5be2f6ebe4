import LedgerFeed.Proofs.Ledger.Rendering
import LedgerFeed.Proofs.Ledger.Unfolding
import LedgerFeed.Proofs.Value.Search

namespace LedgerFeed

open Relation

variable {heap : Heap} {path : List Identity} {slot value node : Slot} {kind : ParameterKind}

/-! ## Where the walk stops -/

/-- A parameter whose own text has a whole number with too many digits in it: its value, or its kind
if that is unknown and has to be shown. -/
inductive TooLong (heap : Heap) : Slot → Prop
  | integer {slot value : Slot} (is : IsParameter heap slot .integer value)
      (long : value.Oversized) : TooLong heap slot
  | unknown {identity : Identity} {name value : Slot}
      (cell : heap[identity]? = some (.parameter name value)) (unnamed : kindOf? name = none)
      (long : ShowsOversized heap name) : TooLong heap (.object identity)

def EntryDenotes (heap : Heap) (entry : Slot) : Prop :=
  ∃ pair parts, mapPair? heap entry = some pair ∧ Denotes.Entry heap pair parts

inductive FirstFault (heap : Heap) : Slot → Slot → Prop
  | item {slot value item : Slot} {earlier later : List Slot}
      (is : IsParameter heap slot .array value)
      (items_eq : sequence? heap value = some (earlier ++ item :: later))
      (before : ∀ part ∈ earlier, ∃ tree, Denotes heap part tree)
      (fails : ¬ ∃ tree, Denotes heap item tree) : FirstFault heap slot item
  | entry {slot value entry key item part : Slot} {earlier later : List Slot}
      (is : IsParameter heap slot .map value)
      (entries_eq : sequence? heap value = some (earlier ++ entry :: later))
      (before : ∀ other ∈ earlier, EntryDenotes heap other)
      (pair : mapPair? heap entry = some (key, item))
      (turn : part = key ∨ part = item ∧ ∃ tree, Denotes heap key tree)
      (fails : ¬ ∃ tree, Denotes heap part tree) : FirstFault heap slot part

/-- The walk over a parameter comes to a number with too many digits. -/
def ComesToLong (heap : Heap) (slot : Slot) : Prop :=
  ∃ node, ReflTransGen (FirstFault heap) slot node ∧ TooLong heap node

theorem FirstFault.holds {part : Slot} (h : FirstFault heap slot part) : Holds heap slot part := by
  cases h with
  | item is items_eq => exact .item is items_eq (by simp)
  | entry is entries_eq before pair turn =>
      exact .entry is entries_eq (by simp) pair (turn.imp_right And.left)

theorem Leaf.Of.not_oversized {leaf : Leaf} (h : leaf.Of value) (integer : leaf.kind = .integer) :
    ¬ value.Oversized := by
  rintro ⟨n, rfl | rfl, long⟩
  · cases h with
    | integer short => exact absurd short (Nat.not_le.mpr long)
    | hashText hash reads => cases reads
  · cases h with
    | state short => exact absurd short (Nat.not_le.mpr long)
    | hashText hash reads => cases reads

theorem IsParameter.named {identity : Identity} {name other : Slot}
    (is : IsParameter heap (.object identity) kind value)
    (cell : heap[identity]? = some (.parameter name other)) : kindOf? name = some kind := by
  cases is with
  | intro found named =>
      rw [cell] at found
      cases found
      exact named

theorem TooLong.integer_of (h : TooLong heap slot) (is : IsParameter heap slot kind value) :
    kind = .integer ∧ value.Oversized := by
  cases h with
  | integer found long =>
      obtain ⟨rfl, rfl⟩ := is.unique found
      exact ⟨rfl, long⟩
  | unknown cell unnamed long =>
      have named := is.named cell
      rw [unnamed] at named
      cases named

theorem TooLong.not_wellTyped (h : TooLong heap slot) : ¬ WellTyped heap slot := by
  rintro ⟨kind, value, is, fits⟩
  obtain ⟨rfl, long⟩ := h.integer_of is
  cases fits with
  | leaf same of => exact of.not_oversized same long

theorem ComesToLong.head {part : Slot} (h : ComesToLong heap part)
    (first : FirstFault heap slot part) : ComesToLong heap slot := by
  obtain ⟨node, reach, long⟩ := h
  exact ⟨node, .head first reach, long⟩

theorem ComesToLong.fails (h : ComesToLong heap slot) : ¬ ∃ tree, Denotes heap slot tree := by
  rintro ⟨tree, denotes⟩
  obtain ⟨node, reach, long⟩ := h
  have holds : ReflTransGen (Holds heap) slot node :=
    ReflTransGen.mono (fun _ _ first => first.holds) _ _ reach
  exact long.not_wellTyped (denotes.sound holds).1

/-! ## One way -/

theorem first_unique {α : Type} {p : α → Prop} {first second later rest : List α} {x y : α}
    (same : first ++ x :: later = second ++ y :: rest) (before : ∀ z ∈ first, p z)
    (beforeOther : ∀ z ∈ second, p z) (fails : ¬ p x) (failsOther : ¬ p y) : x = y := by
  induction first generalizing second with
  | nil =>
      cases second with
      | nil => exact (List.cons.inj same).1
      | cons z second =>
          cases same
          exact absurd (beforeOther _ List.mem_cons_self) fails
  | cons z first ih =>
      cases second with
      | nil =>
          cases same
          exact absurd (before _ List.mem_cons_self) failsOther
      | cons w second =>
          obtain ⟨-, same⟩ := List.cons.inj same
          exact ih same (fun u hu => before u (List.mem_cons_of_mem _ hu))
            fun u hu => beforeOther u (List.mem_cons_of_mem _ hu)

theorem not_entryDenotes {entry key item part : Slot}
    (pair : mapPair? heap entry = some (key, item)) (mine : part = key ∨ part = item)
    (fails : ¬ ∃ tree, Denotes heap part tree) : ¬ EntryDenotes heap entry := by
  rintro ⟨other, parts, found, keyDenotes, itemDenotes⟩
  rw [pair] at found
  cases found
  rcases mine with rfl | rfl
  · exact fails ⟨_, keyDenotes⟩
  · exact fails ⟨_, itemDenotes⟩

theorem FirstFault.unique {part other : Slot} (h : FirstFault heap slot part)
    (h' : FirstFault heap slot other) : part = other := by
  cases h with
  | item is items_eq before fails =>
      cases h' with
      | item found otherItems beforeOther failsOther =>
          obtain ⟨-, rfl⟩ := is.unique found
          rw [items_eq] at otherItems
          exact first_unique (Option.some.inj otherItems) before beforeOther fails failsOther
      | entry found => cases (is.unique found).1
  | entry is entries_eq before pair turn fails =>
      cases h' with
      | item found => cases (is.unique found).1
      | entry found otherEntries beforeOther otherPair otherTurn failsOther =>
          obtain ⟨-, rfl⟩ := is.unique found
          rw [entries_eq] at otherEntries
          have same := first_unique (Option.some.inj otherEntries) before beforeOther
            (not_entryDenotes pair (turn.imp_right And.left) fails)
            (not_entryDenotes otherPair (otherTurn.imp_right And.left) failsOther)
          rw [same, otherPair] at pair
          cases pair
          rcases turn with rfl | ⟨rfl, keyDenotes⟩ <;>
            rcases otherTurn with rfl | ⟨rfl, otherDenotes⟩
          · rfl
          · exact absurd otherDenotes fails
          · exact absurd keyDenotes failsOther
          · rfl

theorem FirstFault.container {part : Slot} (h : FirstFault heap slot part) :
    ∃ kind value, IsParameter heap slot kind value ∧ (kind = .array ∨ kind = .map) := by
  cases h with
  | item is => exact ⟨_, _, is, .inl rfl⟩
  | entry is => exact ⟨_, _, is, .inr rfl⟩

theorem TooLong.last {part : Slot} (h : TooLong heap slot) : ¬ FirstFault heap slot part := by
  intro first
  obtain ⟨kind, value, is, container⟩ := first.container
  obtain ⟨rfl, -⟩ := h.integer_of is
  rcases container with same | same <;> cases same

theorem ComesToLong.acyclic (h : ComesToLong heap slot) :
    ¬ TransGen (FirstFault heap) slot slot := by
  obtain ⟨node, reach, long⟩ := h
  induction reach using ReflTransGen.head_induction_on with
  | refl =>
      intro cycle
      obtain ⟨part, first, -⟩ := TransGen.head'_iff.mp cycle
      exact long.last first
  | head first later ih =>
      intro cycle
      obtain ⟨part, again, back⟩ := TransGen.head'_iff.mp cycle
      cases again.unique first
      exact ih (TransGen.tail' back first)

/-! ## Rendering raises there -/

theorem Denotes.renders {tree : Parameter} (h : Denotes heap slot tree)
    (inside : ∀ identity ∈ path, TransGen (Holds heap) (.object identity) slot) :
    ∃ result, renderParameter heap path slot = .ok result :=
  renderParameter_exists (fun _ reaches => (h.sound reaches).1)
    (fun _ reaches => (h.sound reaches).2) inside

theorem unknownKind_long {name : Slot} :
    unknownKind heap name = .form .tooManyDigits ↔ ShowsOversized heap name := by
  rw [← @holdsLongInt_shows ⟨heap, name⟩]
  unfold unknownKind Value.unlessLong
  cases Value.holdsLongInt ⟨heap, name⟩ <;> simp

theorem renderHash_refuses {fault : Fault} (h : renderHash heap kind value = .error fault) :
    fault.isEncoding = true := by
  unfold renderHash at h
  dsimp only at h
  repeat' split at h
  all_goals cases h
  all_goals rfl

theorem renderScalar_long : renderScalar heap kind value = .error (.form .tooManyDigits) ↔
    kind = .integer ∧ value.Oversized := by
  constructor
  · intro h
    unfold renderScalar at h
    cases kind <;> dsimp only at h
    case hash160 | hash256 => cases renderHash_refuses h
    case integer =>
      split at h
      · rename_i n
        split at h <;> cases h
        rename_i long
        exact ⟨rfl, n, .inl rfl, exceedsDigitLimit_iff.mp long⟩
      · rename_i n
        split at h <;> cases h
        rename_i long
        exact ⟨rfl, n, .inr rfl, exceedsDigitLimit_iff.mp long⟩
      · cases h
    all_goals repeat' split at h
    all_goals cases h
  · rintro ⟨rfl, n, rfl | rfl, long⟩ <;>
      simp only [renderScalar, exceedsDigitLimit_iff.mpr long, ↓reduceIte]

theorem denotes_of_render {result : Rendered} (h : renderParameter heap path slot = .ok result) :
    ∃ tree, Denotes heap slot tree := by
  obtain ⟨tree, denotes, -⟩ := renderParameter_denotes h
  exact ⟨tree, denotes⟩

theorem renderEntry_denotes {entry : Slot} {result : Rendered × Rendered}
    (h : renderEntry heap path entry = .ok result) : EntryDenotes heap entry := by
  obtain ⟨pair, found, key, item⟩ := renderEntry_eq_ok.mp h
  obtain ⟨keyTree, keyDenotes⟩ := denotes_of_render key
  obtain ⟨itemTree, itemDenotes⟩ := denotes_of_render item
  exact ⟨pair, (keyTree, itemTree), found, keyDenotes, itemDenotes⟩

theorem renderEntry_long {entry : Slot} :
    renderEntry heap path entry = .error (.form .tooManyDigits) ↔
      ∃ key item, mapPair? heap entry = some (key, item) ∧
        (renderParameter heap path key = .error (.form .tooManyDigits) ∨
          (∃ result, renderParameter heap path key = .ok result) ∧
            renderParameter heap path item = .error (.form .tooManyDigits)) := by
  unfold renderEntry
  cases mapPair? heap entry with
  | none => simp
  | some pair =>
      obtain ⟨key, item⟩ := pair
      simp only [bind_eq_error, pure_ne_error, and_false, exists_false, or_false, Option.some.injEq,
        Prod.mk.injEq]
      constructor
      · rintro (fails | ⟨result, passes, fails⟩)
        · exact ⟨key, item, ⟨rfl, rfl⟩, .inl fails⟩
        · exact ⟨key, item, ⟨rfl, rfl⟩, .inr ⟨⟨result, passes⟩, fails⟩⟩
      · rintro ⟨_, _, ⟨rfl, rfl⟩, fails | ⟨⟨result, passes⟩, fails⟩⟩
        · exact .inl fails
        · exact .inr ⟨result, passes, fails⟩

theorem comesToLong_of_render
    (h : renderParameter heap path slot = .error (.form .tooManyDigits)) :
    ComesToLong heap slot := by
  fun_induction renderParameter heap path slot with
  | case1 path identity bound name value cell unnamed =>
      have shown := unknownKind_long.mp (Except.error.inj h)
      exact ⟨_, .refl, .unknown (Array.getElem?_eq_some_iff.mpr ⟨bound, cell⟩) unnamed shown⟩
  | case5 path identity bound name value cell named fresh items items_eq ih =>
      simp only [bind_eq_error, pure_ne_error, and_false, exists_false, or_false] at h
      obtain ⟨earlier, item, later, rfl, before, fails⟩ := mapM_eq_error_iff.mp h
      have denoting : ∀ part ∈ earlier, ∃ tree, Denotes heap part tree := by
        intro part mem
        obtain ⟨result, passes⟩ := before part mem
        exact denotes_of_render passes
      have long := ih item fails
      exact long.head (.item (isParameter_of bound cell named) items_eq denoting long.fails)
  | case8 path identity bound name value cell named fresh entries entries_eq ih =>
      simp only [bind_eq_error, pure_ne_error, and_false, exists_false, or_false] at h
      obtain ⟨earlier, entry, later, rfl, before, fails⟩ := mapM_eq_error_iff.mp h
      have denoting : ∀ other ∈ earlier, EntryDenotes heap other := by
        intro other mem
        obtain ⟨result, passes⟩ := before other mem
        exact renderEntry_denotes passes
      obtain ⟨key, item, pair, keyFails | ⟨⟨result, keyPasses⟩, itemFails⟩⟩ :=
        renderEntry_long.mp fails
      · have long := ih key keyFails
        exact long.head
          (.entry (isParameter_of bound cell named) entries_eq denoting pair (.inl rfl) long.fails)
      · have long := ih item itemFails
        exact long.head (.entry (isParameter_of bound cell named) entries_eq denoting pair
          (.inr ⟨rfl, denotes_of_render keyPasses⟩) long.fails)
  | case9 path identity bound name value cell kind notVoid notArray notMap named =>
      obtain ⟨rfl, long⟩ := renderScalar_long.mp (map_eq_error.mp h)
      exact ⟨_, .refl, .integer (isParameter_of bound cell named) long⟩
  | _ => cases h

theorem ComesToLong.cases (h : ComesToLong heap slot) :
    TooLong heap slot ∨ ∃ part, FirstFault heap slot part ∧ ComesToLong heap part := by
  obtain ⟨node, reach, long⟩ := h
  rcases reach.cases_head with rfl | ⟨part, first, later⟩
  · exact .inl long
  · exact .inr ⟨part, first, node, later, long⟩

theorem inside_holds
    (inside : ∀ entered ∈ path, TransGen (FirstFault heap) (.object entered) slot) :
    ∀ entered ∈ path, TransGen (Holds heap) (.object entered) slot :=
  fun entered listed => TransGen.mono (fun _ _ first => first.holds) _ _ (inside entered listed)

theorem ComesToLong.parameter (h : ComesToLong heap slot) :
    ∃ identity name value, slot = .object identity ∧
      heap[identity]? = some (.parameter name value) := by
  have of_is {kind : ParameterKind} {value : Slot} (is : IsParameter heap slot kind value) :
      ∃ identity name value, slot = .object identity ∧
        heap[identity]? = some (.parameter name value) := by
    cases is with
    | intro cell => exact ⟨_, _, _, rfl, cell⟩
  rcases h.cases with long | ⟨part, first, -⟩
  · cases long with
    | integer is => exact of_is is
    | unknown cell => exact ⟨_, _, _, rfl, cell⟩
  · obtain ⟨kind, value, is, -⟩ := first.container
    exact of_is is

theorem ComesToLong.unnamed {identity : Identity} {name : Slot}
    (h : ComesToLong heap (.object identity))
    (cell : heap[identity]? = some (.parameter name value)) (unnamed : kindOf? name = none) :
    ShowsOversized heap name := by
  have nothing {kind : ParameterKind} {other : Slot} :
      ¬ IsParameter heap (.object identity) kind other := by
    intro is
    have named := is.named cell
    rw [unnamed] at named
    cases named
  rcases h.cases with long | ⟨part, first, -⟩
  · cases long with
    | integer is => exact absurd is nothing
    | unknown found _ shown =>
        rw [cell] at found
        cases found
        exact shown
  · obtain ⟨kind, other, is, -⟩ := first.container
    exact absurd is nothing

theorem ComesToLong.array (h : ComesToLong heap slot) (is : IsParameter heap slot .array value) :
    ∃ earlier item later, sequence? heap value = some (earlier ++ item :: later) ∧
      (∀ part ∈ earlier, ∃ tree, Denotes heap part tree) ∧ FirstFault heap slot item ∧
        ComesToLong heap item := by
  rcases h.cases with long | ⟨part, first, later⟩
  · cases (long.integer_of is).1
  · cases first with
    | item found items_eq before fails =>
        obtain ⟨-, rfl⟩ := is.unique found
        exact ⟨_, _, _, items_eq, before, .item found items_eq before fails, later⟩
    | entry found => cases (is.unique found).1

theorem ComesToLong.map (h : ComesToLong heap slot) (is : IsParameter heap slot .map value) :
    ∃ earlier entry later key item part, sequence? heap value = some (earlier ++ entry :: later) ∧
      (∀ other ∈ earlier, EntryDenotes heap other) ∧ mapPair? heap entry = some (key, item) ∧
        (part = key ∨ part = item ∧ ∃ tree, Denotes heap key tree) ∧
          FirstFault heap slot part ∧ ComesToLong heap part := by
  rcases h.cases with long | ⟨part, first, later⟩
  · cases (long.integer_of is).1
  · cases first with
    | item found => cases (is.unique found).1
    | entry found entries_eq before pair turn fails =>
        obtain ⟨-, rfl⟩ := is.unique found
        exact ⟨_, _, _, _, _, _, entries_eq, before, pair, turn,
          .entry found entries_eq before pair turn fails, later⟩

theorem ComesToLong.scalar (h : ComesToLong heap slot) (is : IsParameter heap slot kind value)
    (notArray : kind ≠ .array) (notMap : kind ≠ .map) : kind = .integer ∧ value.Oversized := by
  rcases h.cases with long | ⟨part, first, -⟩
  · exact long.integer_of is
  · obtain ⟨other, _, found, container⟩ := first.container
    obtain ⟨rfl, -⟩ := is.unique found
    rcases container with same | same
    · exact absurd same notArray
    · exact absurd same notMap

theorem EntryDenotes.renders {entry : Slot} (h : EntryDenotes heap entry)
    (inside : ∀ key item, mapPair? heap entry = some (key, item) → ∀ entered ∈ path,
      TransGen (Holds heap) (.object entered) key ∧ TransGen (Holds heap) (.object entered) item) :
    ∃ result, renderEntry heap path entry = .ok result := by
  obtain ⟨⟨key, item⟩, parts, pair, keyDenotes, itemDenotes⟩ := h
  obtain ⟨keyResult, key_eq⟩ :=
    keyDenotes.renders fun entered listed => (inside key item pair entered listed).1
  obtain ⟨itemResult, item_eq⟩ :=
    itemDenotes.renders fun entered listed => (inside key item pair entered listed).2
  exact ⟨(keyResult, itemResult), renderEntry_eq_ok.mpr ⟨(key, item), pair, key_eq, item_eq⟩⟩

theorem renderParameter_raises (h : ComesToLong heap slot)
    (inside : ∀ entered ∈ path, TransGen (FirstFault heap) (.object entered) slot) :
    renderParameter heap path slot = .error (.form .tooManyDigits) := by
  -- On the walk. What stands before the first fault denotes trees, so the walk gets past it.
  fun_induction renderParameter heap path slot with
  | case1 path identity bound name value cell unnamed =>
      have found := Array.getElem?_eq_some_iff.mpr ⟨bound, cell⟩
      rw [unknownKind_long.mpr (h.unnamed found unnamed)]
  | case2 path identity bound name value cell named =>
      cases (h.scalar (isParameter_of bound cell named) (by simp) (by simp)).1
  | case3 path identity bound name value cell named entered =>
      exact absurd (inside identity entered) h.acyclic
  | case4 path identity bound name value cell named fresh unsequenced =>
      obtain ⟨earlier, item, later, items_eq, -⟩ := h.array (isParameter_of bound cell named)
      rw [unsequenced] at items_eq
      cases items_eq
  | case5 path identity bound name value cell named fresh items items_eq ih =>
      have is := isParameter_of bound cell named
      obtain ⟨earlier, item, later, split, before, first, long⟩ := h.array is
      rw [items_eq] at split
      cases split
      simp only [bind_eq_error, pure_ne_error, and_false, exists_false, or_false]
      refine mapM_eq_error_iff.mpr ⟨earlier, item, later, rfl, fun part mem => ?_,
        ih item long (inside_part first inside)⟩
      obtain ⟨tree, denotes⟩ := before part mem
      have holds : Holds heap (.object identity) part := .item is items_eq (by simp [mem])
      exact denotes.renders (inside_part holds (inside_holds inside))
  | case6 path identity bound name value cell named entered =>
      exact absurd (inside identity entered) h.acyclic
  | case7 path identity bound name value cell named fresh unsequenced =>
      obtain ⟨earlier, entry, later, key, item, part, entries_eq, -⟩ :=
        h.map (isParameter_of bound cell named)
      rw [unsequenced] at entries_eq
      cases entries_eq
  | case8 path identity bound name value cell named fresh entries entries_eq ih =>
      have is := isParameter_of bound cell named
      obtain ⟨earlier, entry, later, key, item, part, split, before, pair, turn, first, long⟩ :=
        h.map is
      rw [entries_eq] at split
      cases split
      have held {other key item part : Slot} (mem : other ∈ earlier ++ entry :: later)
          (found : mapPair? heap other = some (key, item)) (mine : part = key ∨ part = item) :
          ∀ entered ∈ identity :: path, TransGen (Holds heap) (.object entered) part :=
        inside_part (.entry is entries_eq mem found mine) (inside_holds inside)
      simp only [bind_eq_error, pure_ne_error, and_false, exists_false, or_false]
      refine mapM_eq_error_iff.mpr ⟨earlier, entry, later, rfl, fun other mem => ?_, ?_⟩
      · refine (before other mem).renders fun key item found entered listed => ?_
        have among : other ∈ earlier ++ entry :: later := List.mem_append_left _ mem
        exact ⟨held among found (.inl rfl) entered listed,
          held among found (.inr rfl) entered listed⟩
      · have among : entry ∈ earlier ++ entry :: later := by simp
        have raises := ih part long (inside_part first inside)
        refine renderEntry_long.mpr ⟨key, item, pair, ?_⟩
        rcases turn with rfl | ⟨rfl, tree, denotes⟩
        · exact .inl raises
        · exact .inr ⟨denotes.renders (held among pair (.inl rfl)), raises⟩
  | case9 path identity bound name value cell kind notVoid notArray notMap named =>
      obtain ⟨rfl, long⟩ := h.scalar (isParameter_of bound cell named) notArray notMap
      exact map_eq_error.mpr (renderScalar_long.mpr ⟨rfl, long⟩)
  | case10 path identity bound notParameter =>
      obtain ⟨_, name, value, ⟨⟩, cell⟩ := h.parameter
      obtain ⟨_, found⟩ := Array.getElem?_eq_some_iff.mp cell
      exact absurd found (notParameter name value)
  | case11 path identity outside =>
      obtain ⟨_, name, value, ⟨⟩, cell⟩ := h.parameter
      exact absurd (Array.getElem?_eq_some_iff.mp cell).1 outside
  | case12 path slot notObject =>
      obtain ⟨identity, name, value, rfl, cell⟩ := h.parameter
      exact absurd rfl (notObject identity)

/-! ## The codec -/

theorem render_long {parameter : Value} :
    parameter.render = .error (.form .tooManyDigits) ↔
      ComesToLong parameter.heap parameter.slot :=
  ⟨comesToLong_of_render, fun h => renderParameter_raises h fun _ listed => by cases listed⟩

theorem renders_iff {parameter : Value} :
    (∃ result, parameter.render = .ok result) ↔
      ∃ tree, Denotes parameter.heap parameter.slot tree := by
  constructor
  · rintro ⟨result, rendered⟩
    exact denotes_of_render rendered
  · rintro ⟨tree, denotes⟩
    exact denotes.renders fun _ listed => nomatch listed

theorem Fault.OfRendering.cases {fault : Fault} (h : fault.OfRendering) :
    (∃ error, fault = .encoding error) ∨ fault = .form .tooManyDigits := by
  rcases h with encoding | rfl
  · cases fault with
    | encoding error => exact .inl ⟨error, rfl⟩
    | _ => cases encoding
  · exact .inr rfl

def Answers {α : Type} (result : Except Fault α) : Prop :=
  (∃ value, result = .ok value) ∨ (∃ error, result = .error (.encoding error)) ∨
    result = .error (.form .tooManyDigits)

theorem answers_of_fault {α : Type} {result : Except Fault α}
    (h : ∀ fault, result = .error fault → fault.OfRendering) : Answers result := by
  cases same : result with
  | ok value => exact .inl ⟨value, rfl⟩
  | error fault =>
      rcases (h fault same).cases with ⟨error, rfl⟩ | rfl
      · exact .inr (.inl ⟨error, rfl⟩)
      · exact .inr (.inr rfl)

theorem items?_of_sequence {items : List Slot} (listed : sequence? heap slot = some items) :
    slot.items? heap = some items := by
  unfold sequence? at listed
  cases slot with
  | object identity =>
      simp only [Slot.cell?] at listed
      simp only [Slot.items?]
      split at listed
      · next cell => simpa only [cell] using listed
      · next cell => simpa only [cell] using listed
      · cases listed
  | _ => cases listed

theorem items_of_sequence {state : Value} {items : List Slot}
    (listed : sequence? state.heap state.slot = some items) :
    state.items = .ok (items.map state.withSlot) := by
  simp only [Value.items, Slot.items, items?_of_sequence listed, Except.map]

theorem encodeNotification_long {contract txid state : Value} {items : List Slot}
    (listed : sequence? state.heap state.slot = some items) :
    encodeNotification contract txid state = .error (.form .tooManyDigits) ↔
      (nonempty? contract.slot).isSome = true ∧ (nonempty? txid.slot).isSome = true ∧
        ∃ earlier item later, items = earlier ++ item :: later ∧
          (∀ other ∈ earlier, ∃ tree, Denotes state.heap other tree) ∧
            ComesToLong state.heap item := by
  have call : (items.map state.withSlot).mapM Value.render = .error (.form .tooManyDigits) ↔
      ∃ earlier item later, items = earlier ++ item :: later ∧
        (∀ other ∈ earlier, ∃ tree, Denotes state.heap other tree) ∧
          ComesToLong state.heap item := by
    simp only [List.mapM_map, mapM_eq_error_iff, render_long, renders_iff, Value.withSlot,
      Function.comp_apply]
  unfold encodeNotification
  cases nonempty? contract.slot with
  | none => simp
  | some named =>
      cases nonempty? txid.slot with
      | none => simp
      | some transaction =>
          simp only [items_of_sequence listed, bind_eq_error, pure_ne_error, and_false,
            exists_false, or_false, Except.ok.injEq, exists_eq_left', reduceCtorEq, false_or, call,
            Option.isSome_some, true_and]

/-- Encoding a parameter or a notification with a list for its state gives a message, is refused by
the codec, or raises for a number too long for text, the last exactly if the walk comes to one. -/
theorem codec_raises (parameter contract txid state : Value) {items : List Slot}
    (listed : sequence? state.heap state.slot = some items) :
    Answers parameter.render ∧
      (parameter.render = .error (.form .tooManyDigits) ↔
        ComesToLong parameter.heap parameter.slot) ∧
      Answers (encodeNotification contract txid state) ∧
      (encodeNotification contract txid state = .error (.form .tooManyDigits) ↔
        (nonempty? contract.slot).isSome = true ∧ (nonempty? txid.slot).isSome = true ∧
          ∃ earlier item later, items = earlier ++ item :: later ∧
            (∀ other ∈ earlier, ∃ tree, Denotes state.heap other tree) ∧
              ComesToLong state.heap item) :=
  ⟨answers_of_fault fun _ => renderParameter_fault, render_long,
    answers_of_fault fun _ => encodeNotification_fault (items_of_sequence listed),
    encodeNotification_long listed⟩

def longState : Heap :=
  #[.parameter (.text "Integer") (.int (Nat.pow 10 4300)), .list [.object 0]]

theorem codec_raises_longState :
    sequence? longState (.object 1) = some [.object 0] ∧
      Answers (Value.render ⟨longState, .object 0⟩) ∧
      (Value.render ⟨longState, .object 0⟩ = .error (.form .tooManyDigits) ↔
        ComesToLong longState (.object 0)) ∧
      Answers (encodeNotification (.text "0xCC") (.text "0xT1") ⟨longState, .object 1⟩) ∧
      (encodeNotification (.text "0xCC") (.text "0xT1") ⟨longState, .object 1⟩ =
          .error (.form .tooManyDigits) ↔
        (nonempty? (.text "0xCC")).isSome = true ∧ (nonempty? (.text "0xT1")).isSome = true ∧
          ∃ earlier item later, [.object 0] = earlier ++ item :: later ∧
            (∀ other ∈ earlier, ∃ tree, Denotes longState other tree) ∧
              ComesToLong longState item) :=
  ⟨rfl, codec_raises ⟨longState, .object 0⟩ (.text "0xCC") (.text "0xT1") ⟨longState, .object 1⟩
    rfl⟩

theorem longState_comesToLong : ComesToLong longState (.object 0) := by
  have is : IsParameter longState (.object 0) .integer (.int (Nat.pow 10 4300)) :=
    .intro rfl (by decide)
  exact ⟨_, .refl, .integer is ⟨_, .inl rfl, exceedsDigitLimit_iff.mp (by decide +kernel)⟩⟩

theorem longState_escapes :
    ¬ ((∃ result, Value.render ⟨longState, .object 0⟩ = .ok result) ∨
        ∃ error, Value.render ⟨longState, .object 0⟩ = .error (.encoding error)) := by
  rw [render_long.mpr longState_comesToLong]
  rintro (⟨result, ⟨⟩⟩ | ⟨error, ⟨⟩⟩)

end LedgerFeed
