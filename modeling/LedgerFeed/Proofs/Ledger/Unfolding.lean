import LedgerFeed.Proofs.Except
import LedgerFeed.Proofs.Ledger.Denotation
import LedgerFeed.Proofs.Value.Search
import LedgerFeed.Proofs.Wire.Messages

namespace LedgerFeed

variable {heap : Heap} {path : List Identity} {slot value : Slot} {kind : ParameterKind}
  {content : Content} {result : Rendered}

/-! ## Leaves -/

theorem isHashText_iff {size : Nat} {text : Text} :
    isHashText size text = true ↔ ∃ digits : List Char, text = .ofChars digits ∧
      digits.length = 2 * size ∧ ∀ c ∈ digits, isHexDigit c = true := by
  unfold isHashText
  constructor
  · intro h
    obtain ⟨length, checked⟩ := Bool.and_eq_true_iff.mp h
    have length := of_decide_eq_true length
    split at checked
    · rename_i octets reads
      obtain ⟨digits, found, decoded⟩ := Option.bind_eq_some_iff.mp reads
      cases Text.chars?_eq_some.mp found
      rw [Text.length_ofChars] at length
      have count := of_decide_eq_true checked
      exact ⟨digits, rfl, length, (length_of_readHex? decoded).2 (count ▸ length)⟩
    · cases checked
  · rintro ⟨digits, rfl, length, hex⟩
    obtain ⟨octets, reads, count⟩ := readHex?_of_digits hex length
    simp [length, reads, count]

theorem hashDigits_spells (text : Text) :
    text = hashDigits text ∨ text = .char '0' :: .char 'x' :: hashDigits text := by
  unfold hashDigits
  split
  · exact .inr rfl
  · exact .inl rfl

theorem hashDigits_eq {text : Text} {digits : List Char}
    (spells : text = .ofChars digits ∨ text = .ofChars ('0' :: 'x' :: digits))
    (hex : ∀ c ∈ digits, isHexDigit c = true) : hashDigits text = .ofChars digits := by
  rcases spells with rfl | rfl
  · unfold hashDigits
    split
    · rename_i rest same
      have letter : Letter.char 'x' ∈ Text.ofChars digits := by simp [same]
      obtain ⟨c, listed, form⟩ := List.mem_map.mp letter
      cases form
      exact absurd (hex _ listed) (by decide)
    · rfl
  · rfl

theorem renderHash_eq_ok (hash : HashKind) : renderHash heap hash.kind value = .ok content ↔
    ∃ digits, (Leaf.hash hash digits).Of value ∧ content = .ofChars ('0' :: 'x' :: digits) := by
  have size : hashSize hash.kind = hash.size := by cases hash <;> rfl
  unfold renderHash
  rw [size]
  constructor
  · intro h
    dsimp only at h
    split at h
    · rename_i text reads
      split at h
      · rename_i valid
        cases h
        obtain ⟨digits, same, length, hex⟩ := isHashText_iff.mp valid
        have spells := hashDigits_spells text
        rw [same] at spells
        refine ⟨digits, .hashText hash reads spells length hex, ?_⟩
        rw [same]
        rfl
      · cases h
    · split at h
      · cases h
      · rename_i buffer octets own _
        split at h
        · rename_i length
          cases h
          exact ⟨_, .hashOctets hash buffer own length, rfl⟩
        · cases h
      · cases h
  · rintro ⟨digits, of, rfl⟩
    cases of with
    | hashText _ reads spells length hex =>
        rw [reads]
        simp only [hashDigits_eq spells hex, isHashText_iff.mpr ⟨digits, rfl, length, hex⟩,
          ↓reduceIte]
        rfl
    | @hashOctets octets _ buffer own length =>
        cases buffer with
        | memoryview => exact absurd rfl own
        | bytes | bytearray => simp [Slot.text?, length]

theorem ofChars_intDigits (n : Int) : Text.ofChars (intDigits n) = .ofString (toString n) := by
  have same : String.ofList (intDigits n) = toString n := by
    cases n with
    | ofNat n => rfl
    | negSucc n =>
        rw [intDigits, if_pos (Int.negSucc_lt_zero n), String.ofList_cons]
        rfl
  rw [← same, Text.ofString, String.toList_ofList]

theorem renderScalar_ok (h : renderScalar heap kind value = .ok content) :
    ∃ leaf : Leaf, leaf.kind = kind ∧ leaf.Of value ∧ content.json = leaf.json := by
  have hashed (hash : HashKind) (h : renderHash heap hash.kind value = .ok content) :
      ∃ leaf : Leaf, leaf.kind = hash.kind ∧ leaf.Of value ∧ content.json = leaf.json := by
    obtain ⟨digits, of, rfl⟩ := (renderHash_eq_ok hash).mp h
    exact ⟨.hash hash digits, rfl, of, rfl⟩
  have stored (octetsKind : OctetsKind) {buffer : Buffer} {octets : List UInt8} :
      ∃ leaf : Leaf, leaf.kind = octetsKind.kind ∧ leaf.Of (.buffer buffer octets) ∧
        (Content.ofChars (writeHex octets)).json = leaf.json :=
    ⟨.octets octetsKind octets, rfl, .octets octetsKind buffer octets, rfl⟩
  unfold renderScalar at h
  cases kind <;> dsimp only at h
  case hash160 => exact hashed .hash160 h
  case hash256 => exact hashed .hash256 h
  case boolean =>
    split at h <;> cases h
    exact ⟨.boolean _, rfl, .boolean _, rfl⟩
  case integer =>
    have shown (n : Int) : (Content.ofChars (intDigits n)).json = .string (toString n) :=
      congrArg Json.string (ofChars_intDigits n)
    have within {n : Int} (h : ¬ exceedsDigitLimit n = true) :
        (natDigits n.natAbs).length ≤ 4300 :=
      exceedsDigitLimit_false.mp (Bool.eq_false_iff.mpr h)
    split at h
    · rename_i n
      split at h <;> cases h
      rename_i short
      exact ⟨.integer n, rfl, .integer (within short), shown n⟩
    · rename_i n
      split at h <;> cases h
      rename_i short
      exact ⟨.integer n, rfl, .state (within short), shown n⟩
    · cases h
  case string =>
    cases value with
    | text s =>
        cases h
        exact ⟨.string s, rfl, .text s, rfl⟩
    | channel c =>
        cases h
        exact ⟨.string c.name, rfl, .channel c, rfl⟩
    | _ => cases h
  case byteArray =>
    split at h <;> cases h
    exact stored .byteArray
  case publicKey =>
    split at h <;> cases h
    exact stored .publicKey
  case signature =>
    split at h <;> cases h
    exact stored .signature
  all_goals cases h

theorem Leaf.Of.renders (heap : Heap) {leaf : Leaf} (h : leaf.Of value) :
    ∃ content, renderScalar heap leaf.kind value = .ok content := by
  have hashed (hash : HashKind) (digits : List Char) (h : (Leaf.hash hash digits).Of value) :
      ∃ content, renderScalar heap hash.kind value = .ok content := by
    have rendered : renderHash heap hash.kind value = _ := (renderHash_eq_ok hash).mpr ⟨_, h, rfl⟩
    cases hash <;> exact ⟨_, rendered⟩
  cases h with
  | boolean | text | channel => exact ⟨_, rfl⟩
  | integer short | state short =>
      have within := exceedsDigitLimit_false.mpr short
      simp only [renderScalar, Leaf.kind, within]
      exact ⟨_, rfl⟩
  | octets octetsKind => cases octetsKind <;> exact ⟨_, rfl⟩
  | hashText hash reads spells size hex => exact hashed _ _ (.hashText hash reads spells size hex)
  | hashOctets hash buffer own size => exact hashed _ _ (.hashOctets hash buffer own size)

/-! ## What is rendered -/

theorem isParameter_of {identity : Identity} (bound : identity < heap.size) {name : Slot}
    (cell : heap[identity] = .parameter name value) (named : kindOf? name = some kind) :
    IsParameter heap (.object identity) kind value :=
  .intro (Array.getElem?_eq_some_iff.mpr ⟨bound, cell⟩) named

theorem renderItems_denotes {α : Type} {render : α → Except Fault Rendered}
    {Means : α → Parameter → Prop} {items : List α} {results : List Rendered}
    (rendered : List.Forall₂ (fun item result => render item = .ok result) items results)
    (each : ∀ item result, render item = .ok result →
      ∃ tree, Means item tree ∧ result.json = tree.json) :
    ∃ parts, List.Forall₂ Means items parts ∧
      Rendered.jsonItems results = Parameter.jsonItems parts := by
  induction rendered with
  | nil => exact ⟨[], .nil, rfl⟩
  | cons first _ ih =>
      obtain ⟨part, means, same⟩ := each _ _ first
      obtain ⟨parts, others, sames⟩ := ih
      refine ⟨part :: parts, .cons means others, ?_⟩
      rw [Rendered.jsonItems, Parameter.jsonItems, same, sames]

def renderEntry (heap : Heap) (path : List Identity) (entry : Slot) :
    Except Fault (Rendered × Rendered) :=
  match mapPair? heap entry with
  | none => .error (.encoding .mapEntry)
  | some (key, item) => do
      let renderedKey ← renderParameter heap path key
      let renderedItem ← renderParameter heap path item
      pure (renderedKey, renderedItem)

theorem renderEntry_eq_ok {entry : Slot} {result : Rendered × Rendered} :
    renderEntry heap path entry = .ok result ↔ ∃ pair, mapPair? heap entry = some pair ∧
      renderParameter heap path pair.1 = .ok result.1 ∧
      renderParameter heap path pair.2 = .ok result.2 := by
  unfold renderEntry
  cases mapPair? heap entry with
  | none => simp
  | some pair =>
      obtain ⟨key, item⟩ := pair
      obtain ⟨resultKey, resultItem⟩ := result
      simp only [bind_eq_ok, pure_eq_ok, Prod.mk.injEq, Option.some.injEq]
      constructor
      · rintro ⟨_, first, _, second, rfl, rfl⟩
        exact ⟨_, rfl, first, second⟩
      · rintro ⟨_, rfl, first, second⟩
        exact ⟨_, first, _, second, rfl, rfl⟩

theorem renderEntries_denotes {entries : List Slot} {results : List (Rendered × Rendered)}
    (rendered : List.Forall₂ (fun entry result => renderEntry heap path entry = .ok result)
      entries results)
    (each : ∀ item result, renderParameter heap path item = .ok result →
      ∃ tree, Denotes heap item tree ∧ result.json = tree.json) :
    ∃ pairs parts, entries.map (mapPair? heap) = pairs.map some ∧
      List.Forall₂ (Denotes.Entry heap) pairs parts ∧
      Rendered.jsonEntries results = Parameter.jsonEntries parts := by
  induction rendered with
  | nil => exact ⟨[], [], rfl, .nil, rfl⟩
  | cons first _ ih =>
      obtain ⟨pair, found, key, item⟩ := renderEntry_eq_ok.mp first
      obtain ⟨keyPart, denotesKey, sameKey⟩ := each _ _ key
      obtain ⟨itemPart, denotesItem, sameItem⟩ := each _ _ item
      obtain ⟨pairs, parts, pairs_eq, others, sames⟩ := ih
      refine ⟨pair :: pairs, (keyPart, itemPart) :: parts, ?_,
        .cons ⟨denotesKey, denotesItem⟩ others, ?_⟩
      · rw [List.map_cons, List.map_cons, found, pairs_eq]
      · rw [Rendered.jsonEntries, Parameter.jsonEntries, sameKey, sameItem, sames]

theorem renderParameter_denotes (h : renderParameter heap path slot = .ok result) :
    ∃ tree, Denotes heap slot tree ∧ result.json = tree.json := by
  fun_induction renderParameter heap path slot generalizing result with
  | case2 path identity bound name value cell named =>
      cases h
      exact ⟨.void, .void (isParameter_of bound cell named), rfl⟩
  | case5 path identity bound name value cell named fresh items items_eq ih =>
      obtain ⟨results, rendered, rfl⟩ := map_eq_ok.mp h
      obtain ⟨parts, denotes, same⟩ := renderItems_denotes (mapM_eq_ok.mp rendered) ih
      obtain ⟨size, each⟩ := List.forall₂_iff_zip.mp denotes
      refine ⟨.array parts, .array (isParameter_of bound cell named) items_eq size
        (fun _ listed => each listed), ?_⟩
      rw [Rendered.json, Parameter.json, same]
  | case8 path identity bound name value cell named fresh entries entries_eq ih =>
      obtain ⟨results, rendered, rfl⟩ := map_eq_ok.mp h
      obtain ⟨pairs, parts, pairs_eq, denotes, same⟩ :=
        renderEntries_denotes (mapM_eq_ok.mp rendered) ih
      obtain ⟨size, each⟩ := List.forall₂_iff_zip.mp denotes
      refine ⟨.map parts, .map (isParameter_of bound cell named) entries_eq pairs_eq size
        (fun _ listed => (each listed).1) (fun _ listed => (each listed).2), ?_⟩
      rw [Rendered.json, Parameter.json, same]
  | case9 path identity bound name value cell kind notVoid notArray notMap named =>
      obtain ⟨content, rendered, rfl⟩ := map_eq_ok.mp h
      obtain ⟨leaf, rfl, of, same⟩ := renderScalar_ok rendered
      refine ⟨.leaf leaf, .leaf (isParameter_of bound cell named) of, ?_⟩
      rw [Rendered.json, Parameter.json, same]
  | _ => cases h

/-! ## What can be rendered -/

open Relation

theorem IsParameter.cell {identity : Identity} (h : IsParameter heap (.object identity) kind value)
    (bound : identity < heap.size) :
    ∃ name, heap[identity] = .parameter name value ∧ kindOf? name = some kind := by
  cases h with
  | intro cell named =>
      obtain ⟨_, found⟩ := Array.getElem?_eq_some_iff.mp cell
      exact ⟨_, found, named⟩

theorem WellTyped.fits (h : WellTyped heap slot) (is : IsParameter heap slot kind value) :
    Fits heap kind value := by
  obtain ⟨_, _, found, fits⟩ := h
  obtain ⟨rfl, rfl⟩ := is.unique found
  exact fits

theorem Fits.items (h : Fits heap .array value) : ∃ items, sequence? heap value = some items := by
  cases h with
  | leaf same => exact absurd same (Leaf.kind_ne _).2.1
  | array items_eq => exact ⟨_, items_eq⟩

theorem Fits.entries (h : Fits heap .map value) : ∃ entries, sequence? heap value = some entries ∧
    ∀ entry ∈ entries, (mapPair? heap entry).isSome = true := by
  cases h with
  | leaf same => exact absurd same (Leaf.kind_ne _).2.2
  | map entries_eq pairs => exact ⟨_, entries_eq, pairs⟩

theorem renderParameter_exists
    (typed : ∀ node, ReflTransGen (Holds heap) slot node → WellTyped heap node)
    (acyclic : ∀ node, ReflTransGen (Holds heap) slot node → ¬ TransGen (Holds heap) node node)
    (inside : ∀ identity ∈ path, TransGen (Holds heap) (.object identity) slot) :
    ∃ result, renderParameter heap path slot = .ok result := by
  -- On the walk. All that it has entered leads to the slot, so it cannot enter the slot again.
  fun_induction renderParameter heap path slot with
  | case1 path identity bound name value cell unnamed =>
      obtain ⟨kind, other, is, -⟩ := typed _ .refl
      obtain ⟨_, found, named⟩ := is.cell bound
      rw [cell] at found
      cases found
      rw [unnamed] at named
      cases named
  | case2 => exact ⟨_, rfl⟩
  | case3 path identity bound name value cell named entered =>
      exact absurd (inside identity entered) (acyclic _ .refl)
  | case4 path identity bound name value cell named fresh unsequenced =>
      obtain ⟨items, items_eq⟩ := ((typed _ .refl).fits (isParameter_of bound cell named)).items
      rw [unsequenced] at items_eq
      cases items_eq
  | case5 path identity bound name value cell named fresh items items_eq ih =>
      have each : ∀ item ∈ items, ∃ result,
          renderParameter heap (identity :: path) item = .ok result := by
        intro item listed
        have holds : Holds heap (.object identity) item :=
          .item (isParameter_of bound cell named) items_eq listed
        exact ih item (fun node reaches => typed node (.head holds reaches))
          (fun node reaches => acyclic node (.head holds reaches)) (inside_part holds inside)
      obtain ⟨results, mapped⟩ := mapM_exists each
      exact ⟨.array results, map_eq_ok.mpr ⟨results, mapped, rfl⟩⟩
  | case6 path identity bound name value cell named entered =>
      exact absurd (inside identity entered) (acyclic _ .refl)
  | case7 path identity bound name value cell named fresh unsequenced =>
      obtain ⟨entries, entries_eq, -⟩ :=
        ((typed _ .refl).fits (isParameter_of bound cell named)).entries
      rw [unsequenced] at entries_eq
      cases entries_eq
  | case8 path identity bound name value cell named fresh entries entries_eq ih =>
      have is := isParameter_of bound cell named
      have each : ∀ entry ∈ entries, ∃ result,
          renderEntry heap (identity :: path) entry = .ok result := by
        intro entry listed
        obtain ⟨found, found_eq, pairs⟩ := ((typed _ .refl).fits is).entries
        rw [entries_eq] at found_eq
        cases found_eq
        obtain ⟨⟨key, item⟩, pair⟩ := Option.isSome_iff_exists.mp (pairs entry listed)
        have part (part : Slot) (mine : part = key ∨ part = item) :
            ∃ result, renderParameter heap (identity :: path) part = .ok result := by
          have holds : Holds heap (.object identity) part :=
            .entry is entries_eq listed pair mine
          exact ih part (fun node reaches => typed node (.head holds reaches))
            (fun node reaches => acyclic node (.head holds reaches)) (inside_part holds inside)
        obtain ⟨resultKey, renderedKey⟩ := part key (.inl rfl)
        obtain ⟨resultItem, renderedItem⟩ := part item (.inr rfl)
        exact ⟨(resultKey, resultItem), renderEntry_eq_ok.mpr ⟨_, pair, renderedKey, renderedItem⟩⟩
      obtain ⟨results, mapped⟩ := mapM_exists each
      exact ⟨.map results, map_eq_ok.mpr ⟨results, mapped, rfl⟩⟩
  | case9 path identity bound name value cell kind notVoid notArray notMap named =>
      cases (typed _ .refl).fits (isParameter_of bound cell named) with
      | void => exact absurd rfl notVoid
      | array => exact absurd rfl notArray
      | map => exact absurd rfl notMap
      | leaf same of =>
          subst same
          obtain ⟨content, rendered⟩ := of.renders heap
          exact ⟨_, map_eq_ok.mpr ⟨content, rendered, rfl⟩⟩
  | case10 path identity bound other =>
      obtain ⟨kind, value, is, -⟩ := typed _ .refl
      obtain ⟨name, cell, -⟩ := is.cell bound
      exact absurd cell (other name value)
  | case11 path identity outside =>
      obtain ⟨kind, value, ⟨cell, -⟩, -⟩ := typed _ .refl
      obtain ⟨bound, -⟩ := Array.getElem?_eq_some_iff.mp cell
      exact absurd bound outside
  | case12 path slot plain =>
      obtain ⟨kind, value, ⟨cell, -⟩, -⟩ := typed _ .refl
      exact absurd rfl (plain _)

/-- A parameter is rendered exactly if all that it holds is well typed and nothing there holds
itself. The result is the wire form of the one tree that the parameter denotes. -/
theorem render_unfolds (value : Value) :
    ((∃ result, value.render = .ok result) ↔
      ∀ node, ReflTransGen (Holds value.heap) value.slot node →
        WellTyped value.heap node ∧ ¬ TransGen (Holds value.heap) node node) ∧
    ∀ result, value.render = .ok result → ∃ tree, Denotes value.heap value.slot tree ∧
      (∀ other, Denotes value.heap value.slot other → other = tree) ∧
      result.json = tree.json ∧ result.toValue.Stands tree.json := by
  refine ⟨⟨fun ⟨result, rendered⟩ node reaches => ?_, fun sound => ?_⟩, fun result rendered => ?_⟩
  · obtain ⟨tree, denotes, -⟩ := renderParameter_denotes rendered
    exact denotes.sound reaches
  · exact renderParameter_exists (fun node reaches => (sound node reaches).1)
      (fun node reaches => (sound node reaches).2) (fun _ entered => nomatch entered)
  · obtain ⟨tree, denotes, same⟩ := renderParameter_denotes rendered
    refine ⟨tree, denotes, fun other means => means.unique denotes, same, ?_⟩
    rw [← same]
    exact (result.place_stands Heap.empty).2

def sharedItem : Value :=
  ⟨#[.list [.object 1, .object 1], .parameter (.text "String") (.text "ok"),
    .parameter (.text "Array") (.object 0)], .object 2⟩

def sharedItemRendered : Rendered :=
  .array [.scalar .string (.word (.text "ok")), .scalar .string (.word (.text "ok"))]

def selfHolder : Value :=
  ⟨#[.list [.object 1], .parameter (.text "Array") (.object 0)], .object 1⟩

theorem render_unfolds_shared :
    sharedItem.render = .ok sharedItemRendered ∧
      (∃ tree, Denotes sharedItem.heap sharedItem.slot tree ∧
        sharedItemRendered.json = tree.json) ∧
      ¬ ∃ result, selfHolder.render = .ok result := by
  have rendered : sharedItem.render = .ok sharedItemRendered := by cbv
  obtain ⟨tree, denotes, -, same, -⟩ := (render_unfolds sharedItem).2 _ rendered
  refine ⟨rendered, ⟨tree, denotes, same⟩, fun rendered => ?_⟩
  have itself : Holds selfHolder.heap selfHolder.slot selfHolder.slot :=
    .item (.intro rfl (by decide)) rfl List.mem_cons_self
  exact ((render_unfolds selfHolder).1.mp rendered _ .refl).2 (.single itself)

end LedgerFeed
