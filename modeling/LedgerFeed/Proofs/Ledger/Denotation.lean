import Mathlib.Data.List.Basic
import Mathlib.Logic.Relation
import LedgerFeed.Proofs.Characters.Hex
import LedgerFeed.Proofs.Number.Digits
import LedgerFeed.Ledger.Parameter

/-!
# What parameters denote

A parameter denotes a tree: what its value means for its kind, whichever objects hold it. Trees have
a wire form of their own. A parameter denotes one tree at most (`Denotes.unique`), and it denotes one
only if every parameter that it holds is well typed and none holds itself (`Denotes.sound`).
-/

namespace LedgerFeed

/-! ## Trees -/

inductive OctetsKind
  | byteArray
  | publicKey
  | signature

inductive HashKind
  | hash160
  | hash256

def OctetsKind.kind : OctetsKind → ParameterKind
  | .byteArray => .byteArray
  | .publicKey => .publicKey
  | .signature => .signature

namespace HashKind

def kind : HashKind → ParameterKind
  | .hash160 => .hash160
  | .hash256 => .hash256

def size : HashKind → Nat
  | .hash160 => 20
  | .hash256 => 32

end HashKind

inductive Leaf
  | boolean (b : Bool)
  | integer (n : Int)
  | string (s : Text)
  | octets (kind : OctetsKind) (octets : List UInt8)
  | hash (kind : HashKind) (digits : List Char)

namespace Leaf

def kind : Leaf → ParameterKind
  | .boolean _ => .boolean
  | .integer _ => .integer
  | .string _ => .string
  | .octets kind _ => kind.kind
  | .hash kind _ => kind.kind

def json : Leaf → Json
  | .boolean b => .bool b
  | .integer n => .string (toString n)
  | .string s => .string s
  | .octets _ stored => .string (.ofChars (writeHex stored))
  | .hash _ digits => .string (.ofChars ('0' :: 'x' :: digits))

inductive Of : Slot → Leaf → Prop
  | boolean (b : Bool) : Of (.bool b) (.boolean b)
  | integer {n : Int} (short : (natDigits n.natAbs).length ≤ 4300) : Of (.int n) (.integer n)
  | state {n : Int} (short : (natDigits n.natAbs).length ≤ 4300) : Of (.state n) (.integer n)
  | text (s : Text) : Of (.text s) (.string s)
  | channel (c : Channel) : Of (.channel c) (.string c.name)
  | octets (kind : OctetsKind) (buffer : Buffer) (octets : List UInt8) :
      Of (.buffer buffer octets) (.octets kind octets)
  | hashText {value : Slot} {text : Text} {digits : List Char} (kind : HashKind)
      (reads : value.text? = some text)
      (spells : text = .ofChars digits ∨ text = .ofChars ('0' :: 'x' :: digits))
      (size : digits.length = 2 * kind.size) (hex : ∀ c ∈ digits, isHexDigit c = true) :
      Of value (.hash kind digits)
  | hashOctets {octets : List UInt8} (kind : HashKind) (buffer : Buffer)
      (own : buffer ≠ .memoryview) (size : octets.length = kind.size) :
      Of (.buffer buffer octets) (.hash kind (writeHex octets.reverse))

end Leaf

inductive Parameter
  | void
  | leaf (leaf : Leaf)
  | array (items : List Parameter)
  | map (entries : List (Parameter × Parameter))

mutual

def Parameter.json : Parameter → Json
  | .void => .object [("type", .string ParameterKind.void.name)]
  | .leaf meaning => tagged meaning.kind meaning.json
  | .array items => tagged .array (.array (jsonItems items))
  | .map entries => tagged .map (.array (jsonEntries entries))

def Parameter.jsonItems : List Parameter → List Json
  | [] => []
  | item :: rest => item.json :: jsonItems rest

def Parameter.jsonEntries : List (Parameter × Parameter) → List Json
  | [] => []
  | (key, item) :: rest => .object [("key", key.json), ("value", item.json)] :: jsonEntries rest

end

/-! ## Graphs -/

inductive IsParameter (heap : Heap) : Slot → ParameterKind → Slot → Prop
  | intro {identity : Identity} {name value : Slot} {kind : ParameterKind}
      (cell : heap[identity]? = some (.parameter name value)) (named : kindOf? name = some kind) :
      IsParameter heap (.object identity) kind value

inductive Fits (heap : Heap) : ParameterKind → Slot → Prop
  | void (value : Slot) : Fits heap .void value
  | leaf {kind : ParameterKind} {value : Slot} {leaf : Leaf} (same : leaf.kind = kind)
      (of : leaf.Of value) : Fits heap kind value
  | array {value : Slot} {items : List Slot} (items_eq : sequence? heap value = some items) :
      Fits heap .array value
  | map {value : Slot} {entries : List Slot} (entries_eq : sequence? heap value = some entries)
      (pairs : ∀ entry ∈ entries, (mapPair? heap entry).isSome = true) : Fits heap .map value

def WellTyped (heap : Heap) (slot : Slot) : Prop :=
  ∃ kind value, IsParameter heap slot kind value ∧ Fits heap kind value

inductive Holds (heap : Heap) : Slot → Slot → Prop
  | item {slot value item : Slot} {items : List Slot} (is : IsParameter heap slot .array value)
      (items_eq : sequence? heap value = some items) (listed : item ∈ items) :
      Holds heap slot item
  | entry {slot value entry key item part : Slot} {entries : List Slot}
      (is : IsParameter heap slot .map value) (entries_eq : sequence? heap value = some entries)
      (listed : entry ∈ entries) (pair : mapPair? heap entry = some (key, item))
      (mine : part = key ∨ part = item) : Holds heap slot part

/-- The tree that a parameter unfolds to. -/
inductive Denotes (heap : Heap) : Slot → Parameter → Prop
  | void {slot value : Slot} (is : IsParameter heap slot .void value) : Denotes heap slot .void
  | leaf {slot value : Slot} {leaf : Leaf} (is : IsParameter heap slot leaf.kind value)
      (of : leaf.Of value) : Denotes heap slot (.leaf leaf)
  | array {slot value : Slot} {items : List Slot} {parts : List Parameter}
      (is : IsParameter heap slot .array value) (items_eq : sequence? heap value = some items)
      (size : items.length = parts.length)
      (each : ∀ pair ∈ items.zip parts, Denotes heap pair.1 pair.2) :
      Denotes heap slot (.array parts)
  | map {slot value : Slot} {entries : List Slot} {pairs : List (Slot × Slot)}
      {parts : List (Parameter × Parameter)} (is : IsParameter heap slot .map value)
      (entries_eq : sequence? heap value = some entries)
      (pairs_eq : entries.map (mapPair? heap) = pairs.map some)
      (size : pairs.length = parts.length)
      (keys : ∀ pair ∈ pairs.zip parts, Denotes heap pair.1.1 pair.2.1)
      (values : ∀ pair ∈ pairs.zip parts, Denotes heap pair.1.2 pair.2.2) :
      Denotes heap slot (.map parts)

variable {heap : Heap} {slot value : Slot} {kind : ParameterKind} {leaf other : Leaf}

/-! ## Leaves -/

theorem OctetsKind.kind_injective : Function.Injective OctetsKind.kind := by
  intro left right same
  cases left <;> cases right <;> first | rfl | cases same

theorem HashKind.kind_injective : Function.Injective HashKind.kind := by
  intro left right same
  cases left <;> cases right <;> first | rfl | cases same

theorem hash_spelling_unique {text : Text} {digits others : List Char}
    (first : text = .ofChars digits ∨ text = .ofChars ('0' :: 'x' :: digits))
    (second : text = .ofChars others ∨ text = .ofChars ('0' :: 'x' :: others))
    (hex : ∀ c ∈ digits, isHexDigit c = true) (hexOthers : ∀ c ∈ others, isHexDigit c = true) :
    digits = others := by
  have unhex : isHexDigit 'x' = false := by decide
  rcases first with rfl | rfl <;> rcases second with spelled | spelled
  · exact Text.ofChars_injective spelled
  · rw [Text.ofChars_injective spelled] at hex
    simp [unhex] at hex
  · rw [← Text.ofChars_injective spelled] at hexOthers
    simp [unhex] at hexOthers
  · exact (List.cons.inj (List.cons.inj (Text.ofChars_injective spelled)).2).2

theorem Leaf.Of.unique (h : leaf.Of value) (h' : other.Of value) (same : leaf.kind = other.kind) :
    leaf = other := by
  cases h with
  | boolean =>
      cases h' with
      | boolean => rfl
      | hashText _ reads => cases reads
  | integer =>
      cases h' with
      | integer => rfl
      | hashText _ reads => cases reads
  | state =>
      cases h' with
      | state => rfl
      | hashText _ reads => cases reads
  | text =>
      cases h' with
      | text => rfl
      | hashText hashKind => cases hashKind <;> cases same
  | channel =>
      cases h' with
      | channel => rfl
      | hashText hashKind => cases hashKind <;> cases same
  | octets octetsKind buffer octets =>
      cases h' with
      | octets => rw [OctetsKind.kind_injective same]
      | hashText _ reads => cases reads
      | hashOctets hashKind => cases octetsKind <;> cases hashKind <;> cases same
  | hashText hashKind reads spells size hex =>
      cases h' with
      | boolean | integer | state => cases reads
      | text | channel => cases hashKind <;> cases same
      | octets => cases reads
      | hashText otherKind readsOther spellsOther _ hexOther =>
          rw [reads] at readsOther
          cases readsOther
          rw [HashKind.kind_injective same, hash_spelling_unique spells spellsOther hex hexOther]
      | hashOctets => cases reads
  | hashOctets hashKind =>
      cases h' with
      | octets octetsKind => cases octetsKind <;> cases hashKind <;> cases same
      | hashText _ reads => cases reads
      | hashOctets => rw [HashKind.kind_injective same]

theorem Leaf.kind_ne (leaf : Leaf) :
    leaf.kind ≠ .void ∧ leaf.kind ≠ .array ∧ leaf.kind ≠ .map := by
  rcases leaf with _ | _ | _ | ⟨kind, _⟩ | ⟨kind, _⟩
  case octets | hash => cases kind <;> simp [Leaf.kind, OctetsKind.kind, HashKind.kind]
  all_goals simp [Leaf.kind]

/-! ## Parts -/

section

variable {α β : Type} {things : List α} {parts others : List β}

theorem exists_zip {thing : α} (listed : thing ∈ things) (size : things.length = parts.length) :
    ∃ part, (thing, part) ∈ things.zip parts := by
  obtain ⟨index, bound, rfl⟩ := List.mem_iff_getElem.mp listed
  refine ⟨parts[index], List.mem_iff_getElem.mpr ⟨index, ?_, List.getElem_zip⟩⟩
  rw [List.length_zip, ← size, Nat.min_self]
  exact bound

theorem parts_unique (Means : α → β → Prop) (size : things.length = parts.length)
    (sizeOthers : things.length = others.length)
    (each : ∀ pair ∈ things.zip parts, ∀ other, Means pair.1 other → pair.2 = other)
    (eachOther : ∀ pair ∈ things.zip others, Means pair.1 pair.2) : parts = others := by
  induction things generalizing parts others with
  | nil =>
      rw [List.length_eq_zero_iff.mp size.symm, List.length_eq_zero_iff.mp sizeOthers.symm]
  | cons thing rest ih =>
      match parts, others, size, sizeOthers with
      | part :: parts, other :: others, size, sizeOthers =>
          simp only [List.zip_cons_cons, List.forall_mem_cons] at each eachOther
          rw [each.1 other eachOther.1,
            ih (Nat.succ.inj size) (Nat.succ.inj sizeOthers) each.2 eachOther.2]

end

/-! ## One tree at most -/

theorem IsParameter.unique {otherKind : ParameterKind} {otherValue : Slot}
    (h : IsParameter heap slot kind value) (h' : IsParameter heap slot otherKind otherValue) :
    kind = otherKind ∧ value = otherValue := by
  cases h with
  | intro cell named =>
      cases h' with
      | intro otherCell otherNamed =>
          rw [cell] at otherCell
          cases otherCell
          rw [named] at otherNamed
          exact ⟨Option.some.inj otherNamed, rfl⟩

namespace Denotes

variable {child node : Slot} {tree another : Parameter}

def Entry (heap : Heap) (pair : Slot × Slot) (part : Parameter × Parameter) : Prop :=
  Denotes heap pair.1 part.1 ∧ Denotes heap pair.2 part.2

theorem unique (h : Denotes heap slot tree) (h' : Denotes heap slot another) : tree = another := by
  -- On the first tree; the second is opened at the same slot, which leaves it one constructor.
  induction h generalizing another with
  | void is =>
      cases h' with
      | void => rfl
      | leaf found => exact absurd (is.unique found).1.symm (Leaf.kind_ne _).1
      | array found | map found => cases (is.unique found).1
  | @leaf _ _ leaf is of =>
      cases h' with
      | void found => exact absurd (is.unique found).1 leaf.kind_ne.1
      | leaf found ofOther =>
          obtain ⟨same, rfl⟩ := is.unique found
          rw [of.unique ofOther same]
      | array found => exact absurd (is.unique found).1 leaf.kind_ne.2.1
      | map found => exact absurd (is.unique found).1 leaf.kind_ne.2.2
  | array is items_eq size each ih =>
      cases h' with
      | leaf found => exact absurd (is.unique found).1.symm (Leaf.kind_ne _).2.1
      | void found | map found => cases (is.unique found).1
      | array found otherItems otherSize eachOther =>
          obtain ⟨-, rfl⟩ := is.unique found
          rw [items_eq] at otherItems
          cases otherItems
          rw [parts_unique (Denotes heap) size otherSize
            (fun pair listed _ means => ih pair listed means) eachOther]
  | map is entries_eq pairs_eq size keys values ihKeys ihValues =>
      cases h' with
      | leaf found => exact absurd (is.unique found).1.symm (Leaf.kind_ne _).2.2
      | void found | array found => cases (is.unique found).1
      | map found otherEntries otherPairs otherSize otherKeys otherValues =>
          obtain ⟨-, rfl⟩ := is.unique found
          rw [entries_eq] at otherEntries
          cases otherEntries
          rw [pairs_eq] at otherPairs
          cases List.map_injective_iff.mpr (fun _ _ => Option.some.inj) otherPairs
          rw [parts_unique (Entry heap) size otherSize
            (fun pair listed _ means =>
              Prod.ext (ihKeys pair listed means.1) (ihValues pair listed means.2))
            fun pair listed => ⟨otherKeys pair listed, otherValues pair listed⟩]

/-! ## What is held -/

theorem wellTyped (h : Denotes heap slot tree) : WellTyped heap slot := by
  cases h with
  | void is => exact ⟨_, _, is, .void _⟩
  | leaf is of => exact ⟨_, _, is, .leaf rfl of⟩
  | array is items_eq => exact ⟨_, _, is, .array items_eq⟩
  | map is entries_eq pairs_eq =>
      refine ⟨_, _, is, .map entries_eq fun entry listed => ?_⟩
      have found := pairs_eq ▸ List.mem_map_of_mem listed
      obtain ⟨pair, -, same⟩ := List.mem_map.mp found
      rw [← same, Option.isSome_some]

theorem held (h : Denotes heap slot tree) (holds : Holds heap slot child) :
    ∃ part, Denotes heap child part ∧ sizeOf part < sizeOf tree := by
  cases h with
  | void is =>
      cases holds with
      | item found | entry found => cases (is.unique found).1
  | @leaf _ _ leaf is =>
      cases holds with
      | item found => exact absurd (is.unique found).1 leaf.kind_ne.2.1
      | entry found => exact absurd (is.unique found).1 leaf.kind_ne.2.2
  | array is items_eq size each =>
      cases holds with
      | entry found => cases (is.unique found).1
      | item found otherItems listed =>
          obtain ⟨-, rfl⟩ := is.unique found
          rw [items_eq] at otherItems
          cases otherItems
          obtain ⟨part, among⟩ := exists_zip listed size
          have less := List.sizeOf_lt_of_mem (List.of_mem_zip among).2
          refine ⟨part, each _ among, ?_⟩
          simp only [Parameter.array.sizeOf_spec]
          omega
  | @map _ _ _ pairs _ is entries_eq pairs_eq size keys values =>
      cases holds with
      | item found => cases (is.unique found).1
      | entry found otherEntries listed pair mine =>
          obtain ⟨-, rfl⟩ := is.unique found
          rw [entries_eq] at otherEntries
          cases otherEntries
          have among : some _ ∈ pairs.map some := pairs_eq ▸ List.mem_map.mpr ⟨_, listed, pair⟩
          obtain ⟨_, among, same⟩ := List.mem_map.mp among
          cases same
          obtain ⟨⟨keyPart, itemPart⟩, together⟩ := exists_zip among size
          have less := List.sizeOf_lt_of_mem (List.of_mem_zip together).2
          simp only [Parameter.map.sizeOf_spec, Prod.mk.sizeOf_spec] at less ⊢
          rcases mine with rfl | rfl
          · exact ⟨keyPart, keys _ together, by omega⟩
          · exact ⟨itemPart, values _ together, by omega⟩

theorem reach (h : Denotes heap slot tree) (reaches : Relation.ReflTransGen (Holds heap) slot node) :
    ∃ part, Denotes heap node part ∧ sizeOf part ≤ sizeOf tree := by
  induction reaches with
  | refl => exact ⟨tree, h, Nat.le_refl _⟩
  | tail _ holds ih =>
      obtain ⟨part, denotes, size⟩ := ih
      obtain ⟨smaller, denotes, less⟩ := denotes.held holds
      exact ⟨smaller, denotes, Nat.le_trans (Nat.le_of_lt less) size⟩

theorem sound (h : Denotes heap slot tree) (reaches : Relation.ReflTransGen (Holds heap) slot node) :
    WellTyped heap node ∧ ¬ Relation.TransGen (Holds heap) node node := by
  obtain ⟨part, denotes, -⟩ := h.reach reaches
  refine ⟨denotes.wellTyped, fun cycle => ?_⟩
  obtain ⟨next, holds, back⟩ := Relation.TransGen.head'_iff.mp cycle
  obtain ⟨inner, denotesNext, less⟩ := denotes.held holds
  obtain ⟨again, denotesAgain, size⟩ := denotesNext.reach back
  rw [denotesAgain.unique denotes] at size
  omega

end Denotes

end LedgerFeed
