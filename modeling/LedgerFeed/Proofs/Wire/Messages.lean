import LedgerFeed.Proofs.Characters.Utf8
import LedgerFeed.Proofs.Json.Octets
import LedgerFeed.Proofs.Value.Standing
import LedgerFeed.Proofs.Ledger.Payloads

/-!
# Messages over the wire

An encoded message is read back from its text and from the octets of it as a value equal to the
message, and the envelope around what is read has the message's own text in it
(`messages_read_back`). There are no octets if half a pair stands alone in the message.
-/

namespace LedgerFeed

theorem parsePayload_octets {tree : Json} (h : tree.Faithful) (isObject : tree.isObject = true)
    {octets : List UInt8} (encoded : Utf8.encode? tree.compact = some octets) (name : String) :
    parsePayload name (.ofSlot (.buffer .bytes octets)) = .ok tree := by
  obtain ⟨chars, found, rfl⟩ := Option.map_eq_some_iff.mp encoded
  refine parsePayload_compact h isObject ?_ name
  simp only [payloadText, Value.text?, Value.ofSlot, Slot.text?, Utf8.decode?_encode,
    Text.chars?_eq_some.mp found]

/-! ## Notifications -/

theorem Content.slot_stands (heap : Heap) (content : Content) :
    Stands heap content.slot content.json := by
  cases content with
  | flag b => exact .bool b
  | word w => exact .word w

theorem placeTagged_stands {heap : Heap} {slot : Slot} {tree : Json} (kind : ParameterKind)
    (h : Stands heap slot tree) :
    heap.Extends (placeTagged heap kind slot).1 ∧
      Stands (placeTagged heap kind slot).1 (placeTagged heap kind slot).2 (tagged kind tree) :=
  ⟨Heap.alloc_extends heap _, Stands.alloc_dict (.cons ⟨rfl, .text _⟩ (.cons ⟨rfl, h⟩ .nil))⟩

theorem placeTagged_list {heap grown : Heap} {slots : List Slot} {trees : List Json}
    (kind : ParameterKind) (grows : heap.Extends grown)
    (parts : List.Forall₂ (Stands grown) slots trees) :
    let listed := grown.alloc (.list slots)
    heap.Extends (placeTagged listed.1 kind listed.2).1 ∧
      Stands (placeTagged listed.1 kind listed.2).1 (placeTagged listed.1 kind listed.2).2
        (tagged kind (.array trees)) := by
  intro listed
  obtain ⟨further, stands⟩ := placeTagged_stands kind (Stands.alloc_list parts)
  exact ⟨(grows.trans (Heap.alloc_extends grown _)).trans further, stands⟩

mutual

theorem Rendered.place_stands : ∀ (rendered : Rendered) (heap : Heap),
    heap.Extends (rendered.place heap).1 ∧
      Stands (rendered.place heap).1 (rendered.place heap).2 rendered.json
  | .void, heap =>
      ⟨Heap.alloc_extends heap _, Stands.alloc_dict (.cons ⟨rfl, .text _⟩ .nil)⟩
  | .scalar kind content, heap => placeTagged_stands kind (content.slot_stands heap)
  | .array items, heap => by
      obtain ⟨grows, parts⟩ := placeItems_stands items heap
      exact placeTagged_list .array grows parts
  | .map entries, heap => by
      obtain ⟨grows, parts⟩ := placeEntries_stands entries heap
      exact placeTagged_list .map grows parts

theorem Rendered.placeItems_stands : ∀ (items : List Rendered) (heap : Heap),
    heap.Extends (Rendered.placeItems heap items).1 ∧
      List.Forall₂ (Stands (Rendered.placeItems heap items).1) (Rendered.placeItems heap items).2
        (Rendered.jsonItems items)
  | [], heap => ⟨.refl heap, .nil⟩
  | item :: rest, heap => by
      obtain ⟨grows, first⟩ := item.place_stands heap
      obtain ⟨further, others⟩ := placeItems_stands rest (item.place heap).1
      exact ⟨grows.trans further, .cons (first.extend further) others⟩

theorem Rendered.placeEntries_stands : ∀ (entries : List (Rendered × Rendered)) (heap : Heap),
    heap.Extends (Rendered.placeEntries heap entries).1 ∧
      List.Forall₂ (Stands (Rendered.placeEntries heap entries).1)
        (Rendered.placeEntries heap entries).2 (Rendered.jsonEntries entries)
  | [], heap => ⟨.refl heap, .nil⟩
  | (key, item) :: rest, heap => by
      obtain ⟨grows, first⟩ := key.place_stands heap
      obtain ⟨further, second⟩ := item.place_stands (key.place heap).1
      have pair : List.Forall₂ (Stands.Entry (item.place (key.place heap).1).1)
          [(.text "key", (key.place heap).2), (.text "value", (item.place (key.place heap).1).2)]
          [("key", key.json), ("value", item.json)] :=
        .cons ⟨rfl, first.extend further⟩ (.cons ⟨rfl, second⟩ .nil)
      have entry := Stands.alloc_dict pair
      obtain ⟨last, others⟩ := placeEntries_stands rest
        ((item.place (key.place heap).1).1.alloc (.dict
          [(.text "key", (key.place heap).2),
           (.text "value", (item.place (key.place heap).1).2)])).1
      exact ⟨((grows.trans further).trans (Heap.alloc_extends _ _)).trans last,
        .cons (entry.extend last) others⟩

end

theorem notification_stands (contract txid : Word) (items : List Rendered) :
    (NotificationMessage.mk contract txid (.rendered items)).toValue.Stands
      (notificationTree contract txid items) := by
  obtain ⟨-, parts⟩ := Rendered.placeItems_stands items Heap.empty
  exact Stands.alloc_dict (.cons ⟨rfl, .word contract⟩ (.cons ⟨rfl, .word txid⟩
    (.cons ⟨rfl, Stands.alloc_list parts⟩ .nil)))

/-! ## Blocks -/

structure BlockMessage.Recoverable (message : BlockMessage) : Prop where
  keys : TextKeys message.fields
  inner : ∀ entry ∈ message.fields, LedgerFeed.Recoverable message.heap entry.2

theorem block_stands {message : BlockMessage} (confirmed : message.Confirmed)
    (recoverable : message.Recoverable) {members : List (Text × Json)}
    (h : message.fields.mapM (formEntry message.heap []) = .ok members) :
    message.toValue.Stands
      (.object (members ++ [(.ofString "confirmations", .int blockConfirmations)])) := by
  have fields : List.Forall₂ (Stands.Entry message.heap) message.fields members :=
    formEntries_entries recoverable.keys
      (fun entry he _ hform => form_stands (recoverable.inner entry he) hform) h
  have last : Stands.Entry message.heap (.text "confirmations", .int blockConfirmations)
      (.ofString "confirmations", .int blockConfirmations) := ⟨rfl, .int _⟩
  have entries : List.Forall₂ (Stands.Entry message.heap) message.entries
      (members ++ [(.ofString "confirmations", .int blockConfirmations)]) := by
    rw [entries_confirmed confirmed]
    exact List.rel_append fields (.cons last .nil)
  exact Stands.alloc_dict entries

/-! ## Both -/

/-- A message is read back as a value equal to it, and the frame around what is read has the
message's text in it. The text has octets unless half a pair stands alone in what is read, and the
same is read from them. -/
structure ReadsBack (name : String) (channel : Channel) (message : Value) (payload : Text)
    (body : Json) : Prop where
  encodes : (∃ octets, Utf8.encode? payload = some octets) ↔ body.Encodable
  octets : ∀ octets, Utf8.encode? payload = some octets →
    parsePayload name (.ofSlot (.buffer .bytes octets)) = .ok body
  text : parsePayload name (.text payload) = .ok body
  equal : message.Matches body.toValue
  frame : (Envelope.mk channel body.toValue).text = .ok (frameText (channel, payload))

theorem readsBack_of_stands {message : Value} {tree : Json} (faithful : tree.Faithful)
    (isObject : tree.isObject = true) (stands : message.Stands tree) (name : String)
    (channel : Channel) : ReadsBack name channel message tree.compact tree where
  encodes := Text.encode?_iff.trans (Json.encodable_write tree)
  octets _ encoded := parsePayload_octets faithful isObject encoded name
  text := parsePayload_compact faithful isObject rfl name
  equal := ⟨tree, stands, toValue_stands faithful⟩
  frame := envelope_text faithful.tidy channel

/-- Every encoded notification is read back, and so is every encoded block whose values are
determined by their text. What is read of a block ends with its one confirmation, whatever the block
said of confirmations itself. -/
theorem messages_read_back (name : String) (channel : Channel) :
    (∀ contract txid state message, encodeNotification contract txid state = .ok message →
      ∃ payload body, message.text = .ok payload ∧
        ReadsBack name channel message.toValue payload body) ∧
    (∀ block message, encodeBlock block = .ok message → message.Recoverable →
      ∃ payload members, message.text = .ok payload ∧
        .ofString "confirmations" ∉ members.map (·.1) ∧
        ReadsBack name channel message.toValue payload
          (.object (members ++ [(.ofString "confirmations", .int 1)]))) := by
  constructor
  · intro contract txid state message encoded
    obtain ⟨items, hitems⟩ := encodeNotification_eq_ok encoded
    obtain ⟨contract, txid, call⟩ := message
    cases hitems
    exact ⟨_, notificationTree contract txid items, rfl,
      readsBack_of_stands (notificationTree_faithful contract txid items) rfl
        (notification_stands contract txid items) name channel⟩
  · intro block message encoded recoverable
    obtain ⟨confirmed, ⟨tree, htree⟩, -⟩ := encodeBlock_eq_ok encoded
    obtain ⟨faithful, members, rfl, once, hmembers⟩ := json_confirmed confirmed recoverable.keys
      (fun entry he => (recoverable.inner entry he).toPlain) htree
    refine ⟨_, members, ?_, once, readsBack_of_stands faithful rfl
      (block_stands confirmed recoverable hmembers) name channel⟩
    rw [BlockMessage.text, htree]
    rfl

def confirmedCommit : Heap :=
  #[.dict [(.text "hash", .text "0x01"), (.text "confirmations", .int 7), (.text "tx", .object 1)],
    .list [.text "0xT1"], .parameter (.text "String") (.text "ok"), .list [.object 2]]

def confirmedBlock : BlockMessage :=
  ⟨confirmedCommit, [(.text "hash", .text "0x01"), (.text "tx", .object 1)],
    .int blockConfirmations⟩

theorem confirmedBlock_json : confirmedBlock.json = .ok (.object
    [("hash", .string "0x01"), ("tx", .array [.string "0xT1"]),
     ("confirmations", .int blockConfirmations)]) := by
  have word (path : List Identity) (s : String) :
      form confirmedCommit path (.text s) = .ok (.string s) := by rw [form.eq_def]
  have number : form confirmedCommit [] (.int blockConfirmations) =
      .ok (.int blockConfirmations) := by
    rw [form.eq_def]
    exact formInt_confirmations
  have list : form confirmedCommit [] (.object 1) = .ok (.array [.string "0xT1"]) := by
    have cell : confirmedCommit[1]? = some (.list [.text "0xT1"]) := rfl
    rw [form_list cell (by simp), List.mapM_cons, word]
    rfl
  have members : confirmedBlock.entries.mapM (formEntry confirmedCommit []) = .ok
      [("hash", .string "0x01"), ("tx", .array [.string "0xT1"]),
       ("confirmations", .int blockConfirmations)] := by
    change [(Slot.text "hash", Slot.text "0x01"), (.text "tx", .object 1),
      (.text "confirmations", .int blockConfirmations)].mapM (formEntry confirmedCommit []) = _
    simp only [List.mapM_cons, List.mapM_nil, formEntry, memberName, word, number, list]
    rfl
  change (confirmedBlock.entries.mapM (formEntry confirmedCommit [])).bind _ = _
  rw [members]
  rfl

theorem encodeBlock_confirmedCommit :
    encodeBlock ⟨confirmedCommit, .object 0⟩ = .ok confirmedBlock := by
  have native : nativeFields ⟨confirmedCommit, .object 0⟩ = .ok (confirmedCommit,
      [(.text "hash", .text "0x01"), (.text "confirmations", .int 7), (.text "tx", .object 1)]) :=
    rfl
  have copied : copyFault? confirmedCommit [] [.text "0x01", .text "hash", .int 7,
      .text "confirmations", .object 1, .text "tx"] = none := by
    cbv
  have unconfirmed : [(Slot.text "hash", Slot.text "0x01"), (.text "confirmations", .int 7),
      (.text "tx", .object 1)].filter
        (fun entry => entry.1.text? ≠ some (.ofString "confirmations")) =
      confirmedBlock.fields :=
    rfl
  have json : BlockMessage.json ⟨confirmedCommit, confirmedBlock.fields, .int blockConfirmations⟩ =
      _ :=
    confirmedBlock_json
  simp only [encodeBlock, native, bind, Except.bind, List.flatMap_cons, List.flatMap_nil,
    List.cons_append, List.nil_append, copied, unconfirmed, json]
  rfl

theorem confirmedBlock_reaches {entry : Slot × Slot} {slot : Slot}
    (he : entry ∈ confirmedBlock.fields) (h : Reaches confirmedCommit entry.2 slot) :
    slot = .text "0x01" ∨ slot = .object 1 ∨ slot = .text "0xT1" := by
  simp only [confirmedBlock, List.mem_cons, List.not_mem_nil, or_false] at he
  rcases he with rfl | rfl
  · cases h
    exact .inl rfl
  · cases h with
    | itself => exact .inr (.inl rfl)
    | item cell mem later =>
        rcases cell with cell | cell <;> cases cell
        cases List.mem_singleton.mp mem
        cases later
        exact .inr (.inr rfl)
    | value cell => cases cell

theorem confirmedBlock_recoverable : confirmedBlock.Recoverable where
  keys := by
    refine ⟨fun entry he => ?_, by decide⟩
    simp only [confirmedBlock, List.mem_cons, List.not_mem_nil, or_false] at he
    rcases he with rfl | rfl <;> exact ⟨_, rfl⟩
  inner entry he := by
    refine ⟨⟨fun x reaches => ?_, fun identity entries reaches cell => ?_⟩,
      fun identity items reaches cell => ?_⟩
    · simpa using confirmedBlock_reaches he reaches
    · obtain rfl : identity = 1 := by simpa using confirmedBlock_reaches he reaches
      cases cell
    · obtain rfl : identity = 1 := by simpa using confirmedBlock_reaches he reaches
      cases cell

theorem render_text {heap : Heap} {identity : Identity} {said : Text}
    (cell : heap[identity]? = some (.parameter (.text "String") (.text said))) :
    Value.render ⟨heap, .object identity⟩ = .ok (.scalar .string (.word (.text said))) := by
  obtain ⟨bound, cell⟩ := Array.getElem?_eq_some_iff.mp cell
  have kind : kindOf? (.text "String") = some .string := by decide
  unfold Value.render
  rw [renderParameter, dif_pos bound, cell]
  simp only [kind]
  rfl

theorem encodeNotification_confirmedCommit :
    encodeNotification (.text "0xCC") (.text "0xT1") ⟨confirmedCommit, .object 3⟩ =
      .ok ⟨.text "0xCC", .text "0xT1", .rendered [.scalar .string (.word (.text "ok"))]⟩ := by
  change (do
    let call ← [(⟨confirmedCommit, .object 2⟩ : Value)].mapM Value.render
    pure (NotificationMessage.mk (.text "0xCC") (.text "0xT1") (.rendered call))) = _
  rw [List.mapM_cons, render_text rfl]
  rfl

theorem messages_read_back_confirmedCommit :
    (∃ message, encodeNotification (.text "0xCC") (.text "0xT1") ⟨confirmedCommit, .object 3⟩ =
        .ok message ∧
      ∃ payload body, message.text = .ok payload ∧
        ReadsBack "events" .events message.toValue payload body) ∧
    encodeBlock ⟨confirmedCommit, .object 0⟩ = .ok confirmedBlock ∧
      confirmedBlock.Recoverable ∧
      ∃ payload members, confirmedBlock.text = .ok payload ∧
        .ofString "confirmations" ∉ members.map (·.1) ∧
        ReadsBack "blocks" .blocks confirmedBlock.toValue payload
          (.object (members ++ [(.ofString "confirmations", .int 1)])) :=
  ⟨⟨_, encodeNotification_confirmedCommit,
      (messages_read_back "events" .events).1 _ _ _ _ encodeNotification_confirmedCommit⟩,
    encodeBlock_confirmedCommit, confirmedBlock_recoverable,
    (messages_read_back "blocks" .blocks).2 _ _ encodeBlock_confirmedCommit
      confirmedBlock_recoverable⟩

def loneHalf : Text := [.half ⟨0, by decide⟩]

def halfSaid : Heap := #[.parameter (.text "String") (.text loneHalf), .list [.object 0]]

theorem encodeNotification_halfSaid :
    encodeNotification (.text "0xCC") (.text "0xT1") ⟨halfSaid, .object 1⟩ =
      .ok ⟨.text "0xCC", .text "0xT1", .rendered [.scalar .string (.word (.text loneHalf))]⟩ := by
  change (do
    let call ← [(⟨halfSaid, .object 0⟩ : Value)].mapM Value.render
    pure (NotificationMessage.mk (.text "0xCC") (.text "0xT1") (.rendered call))) = _
  rw [List.mapM_cons, render_text rfl]
  rfl

theorem half_has_no_octets :
    ¬ ∀ contract txid state message, encodeNotification contract txid state = .ok message →
      ∃ payload octets body, message.text = .ok payload ∧
        Utf8.encode? payload = some octets ∧
        parsePayload "events" (.ofSlot (.buffer .bytes octets)) = .ok body ∧
        message.toValue.Matches body.toValue := by
  intro read
  obtain ⟨payload, octets, -, text, encoded, -⟩ := read _ _ _ _ encodeNotification_halfSaid
  have unencoded : Utf8.encode? (notificationTree (.text "0xCC") (.text "0xT1")
      [.scalar .string (.word (.text loneHalf))]).compact = none := by
    cbv
  cases text
  cases unencoded.symm.trans encoded

end LedgerFeed
