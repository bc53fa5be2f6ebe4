import LedgerFeed.Proofs.Value.Plain
import LedgerFeed.Proofs.Value.Words
import LedgerFeed.Proofs.Ledger.Ideal
import LedgerFeed.Wire.Payload
import LedgerFeed.Gateway.Broadcaster

namespace LedgerFeed

def Value.PlainBlock (block : Value) : Prop :=
  ∀ heap entries, nativeFields block = .ok (heap, entries) →
    TextKeys entries ∧ ∀ entry ∈ entries, Plain heap entry.2

def Exact (publication : Publication) : Prop :=
  ∃ members, publication.2 = (Json.object members).compact ∧ (Json.object members).Faithful

/-! ## Blocks -/

theorem insertEntry_fresh {heap : Heap} {entries : List (Slot × Slot)} {key item : Slot}
    (h : ∀ entry ∈ entries, sameKey heap entry.1 key = false) :
    insertEntry heap entries key item = entries ++ [(key, item)] := by
  induction entries with
  | nil => rfl
  | cons entry rest ih =>
      rcases entry with ⟨other, old⟩
      have differs := h (other, old) List.mem_cons_self
      simp only [insertEntry, differs, Bool.false_eq_true, ↓reduceIte,
        ih fun e he => h e (List.mem_cons_of_mem _ he), List.cons_append]

theorem sameKey_text (heap : Heap) (key : Slot) (name : Text) :
    sameKey heap key (.text name) = decide (key.text? = some name) :=
  sameWithin_text rfl

structure BlockMessage.Confirmed (message : BlockMessage) : Prop where
  confirmations : message.confirmations = .int blockConfirmations
  fresh : ∀ entry ∈ message.fields, entry.1.text? ≠ some (.ofString "confirmations")

theorem TextKeys.sublist {entries others : List (Slot × Slot)} (keys : TextKeys entries)
    (h : others.Sublist entries) : TextKeys others where
  texts entry he := keys.texts entry (h.subset he)
  once := keys.once.sublist (h.map _)

theorem encodeBlock_eq_ok {block : Value} {message : BlockMessage}
    (h : encodeBlock block = .ok message) :
    message.Confirmed ∧ (∃ tree, message.json = .ok tree) ∧
      ∃ native, nativeFields block = .ok (message.heap, native) ∧
        message.fields.Sublist native := by
  unfold encodeBlock at h
  obtain ⟨⟨heap, native⟩, hnative, h⟩ := bind_eq_ok.mp h
  dsimp only at h
  split at h
  · cases h
  · split at h
    · rename_i tree htree
      cases h
      refine ⟨⟨rfl, fun entry he => ?_⟩, ⟨tree, htree⟩, native, hnative, List.filter_sublist⟩
      exact of_decide_eq_true (List.mem_filter.mp he).2
    · cases h

section

variable {message : BlockMessage}

theorem entries_confirmed (confirmed : message.Confirmed) :
    message.entries = message.fields ++ [(.text "confirmations", .int blockConfirmations)] := by
  rw [BlockMessage.entries, confirmed.confirmations]
  refine insertEntry_fresh fun entry he => ?_
  rw [sameKey_text]
  exact decide_eq_false (confirmed.fresh entry he)

theorem entries_keys (confirmed : message.Confirmed) (keys : TextKeys message.fields) :
    TextKeys message.entries := by
  rw [entries_confirmed confirmed]
  refine ⟨fun entry he => ?_, ?_⟩
  · rcases List.mem_append.mp he with he | he
    · exact keys.texts entry he
    · cases List.mem_singleton.mp he
      exact ⟨"confirmations", rfl⟩
  · rw [List.map_append, List.nodup_append]
    refine ⟨keys.once, by simp, ?_⟩
    rintro _ hleft _ hright rfl
    obtain ⟨entry, he, hname⟩ := List.mem_map.mp hleft
    simp only [List.map_cons, List.map_nil, List.mem_singleton] at hright
    exact confirmed.fresh entry he (hname.trans hright)

theorem formInt_confirmations : formInt blockConfirmations = .ok (.int blockConfirmations) := by
  have short : exceedsDigitLimit blockConfirmations = false :=
    exceedsDigitLimit_false.mpr (by decide)
  rw [formInt, short]
  rfl

theorem json_members (confirmed : message.Confirmed) :
    message.json = (message.fields.mapM (formEntry message.heap [])).map fun members =>
      .object (members ++ [(.ofString "confirmations", .int blockConfirmations)]) := by
  have last : [(Slot.text "confirmations", Slot.int blockConfirmations)].mapM
      (formEntry message.heap []) = .ok [(.ofString "confirmations", .int blockConfirmations)] := by
    simp only [List.mapM_cons, List.mapM_nil, formEntry, memberName, form.eq_def,
      formInt_confirmations]
    rfl
  have tree : message.json =
      (message.entries.mapM (formEntry message.heap [])).map Json.object := by
    unfold BlockMessage.json formEntries
    change (do
      let members ← message.entries.mapM (formEntry message.heap [])
      pure (Json.object members)) = _
    cases message.entries.mapM (formEntry message.heap []) <;> rfl
  rw [tree, entries_confirmed confirmed, List.mapM_append, last]
  cases message.fields.mapM (formEntry message.heap []) <;> rfl

theorem json_confirmed (confirmed : message.Confirmed) (keys : TextKeys message.fields)
    (inner : ∀ entry ∈ message.fields, Plain message.heap entry.2) {tree : Json}
    (h : message.json = .ok tree) :
    tree.Faithful ∧ ∃ members,
      tree = .object (members ++ [(.ofString "confirmations", .int blockConfirmations)]) ∧
        .ofString "confirmations" ∉ members.map (·.1) ∧
        message.fields.mapM (formEntry message.heap []) = .ok members := by
  have faithful : tree.Faithful := by
    obtain ⟨found, hfound, h⟩ := bind_eq_ok.mp h
    cases h
    refine formEntries_members (entries_keys confirmed keys) ?_ hfound
    intro entry he j hj
    rw [entries_confirmed confirmed] at he
    rcases List.mem_append.mp he with he | he
    · exact form_faithful (inner entry he) hj
    · cases List.mem_singleton.mp he
      rw [form.eq_def] at hj
      exact formInt_faithful hj
  rw [json_members confirmed] at h
  obtain ⟨members, hmembers, rfl⟩ := map_eq_ok.mp h
  refine ⟨faithful, members, rfl, fun repeated => ?_, hmembers⟩
  cases faithful with
  | object once _ =>
      rw [List.map_append, List.nodup_append] at once
      exact once.2.2 _ repeated _ (List.mem_singleton_self _) rfl

end

theorem blockPublications_exact {block : Value} (h : block.PlainBlock) :
    ∀ publication ∈ blockPublications block, Exact publication := by
  intro publication hp
  unfold blockPublications at hp
  cases hm : encodeBlock block with
  | error fault => simp [hm] at hp
  | ok message =>
      obtain ⟨confirmed, ⟨tree, htree⟩, native, hnative, part⟩ := encodeBlock_eq_ok hm
      obtain ⟨keys, inner⟩ := h message.heap native hnative
      obtain ⟨faithful, members, rfl, -⟩ := json_confirmed confirmed (keys.sublist part)
        (fun entry he => inner entry (part.subset he)) htree
      simp only [hm, BlockMessage.text, htree, Except.map, List.mem_singleton] at hp
      exact ⟨_, by rw [hp], faithful⟩

/-! ## Notifications -/

theorem Content.json_faithful (content : Content) : content.json.Faithful := by
  cases content with
  | flag b => exact .bool b
  | word w => exact .string _

theorem tagged_faithful (kind : ParameterKind) {value : Json} (h : value.Faithful) :
    (tagged kind value).Faithful := by
  refine .object (by simp) fun member hm => ?_
  simp only [List.mem_cons, List.not_mem_nil, or_false] at hm
  rcases hm with rfl | rfl
  · exact .string _
  · exact h

mutual

theorem Rendered.json_faithful : ∀ rendered : Rendered, rendered.json.Faithful
  | .void => by
      refine .object (by simp) fun member hm => ?_
      cases List.mem_singleton.mp hm
      exact .string _
  | .scalar kind content => tagged_faithful kind content.json_faithful
  | .array items => tagged_faithful .array (.array (jsonItems_faithful items))
  | .map entries => tagged_faithful .map (.array (jsonEntries_faithful entries))

theorem Rendered.jsonItems_faithful :
    ∀ items : List Rendered, ∀ j ∈ Rendered.jsonItems items, j.Faithful
  | [], j, hj => by cases hj
  | item :: rest, j, hj => by
      rcases List.mem_cons.mp hj with rfl | hj
      · exact item.json_faithful
      · exact jsonItems_faithful rest j hj

theorem Rendered.jsonEntries_faithful :
    ∀ entries : List (Rendered × Rendered), ∀ j ∈ Rendered.jsonEntries entries, j.Faithful
  | [], j, hj => by cases hj
  | (key, item) :: rest, j, hj => by
      rcases List.mem_cons.mp hj with rfl | hj
      · refine .object (by simp) fun member hm => ?_
        simp only [List.mem_cons, List.not_mem_nil, or_false] at hm
        rcases hm with rfl | rfl
        · exact key.json_faithful
        · exact item.json_faithful
      · exact jsonEntries_faithful rest j hj

end

def notificationTree (contract txid : Word) (items : List Rendered) : Json :=
  .object [("contract", .string contract.content), ("txid", .string txid.content),
    ("call", .array (Rendered.jsonItems items))]

theorem notificationTree_faithful (contract txid : Word) (items : List Rendered) :
    (notificationTree contract txid items).Faithful := by
  refine .object (by simp) fun member hmember => ?_
  simp only [List.mem_cons, List.not_mem_nil, or_false] at hmember
  rcases hmember with rfl | rfl | rfl
  · exact .string _
  · exact .string _
  · exact .array (Rendered.jsonItems_faithful items)

theorem eventPublication_exact {event : Value × Value} {publication : Publication}
    (h : eventPublication? event = some publication) : Exact publication := by
  unfold eventPublication? at h
  split at h
  · rename_i payload htext
    cases h
    unfold eventText at htext
    obtain ⟨⟨contract, state⟩, -, htext⟩ := bind_eq_ok.mp htext
    obtain ⟨message, hm, htext⟩ := bind_eq_ok.mp htext
    obtain ⟨items, hitems⟩ := encodeNotification_eq_ok hm
    obtain ⟨contract, txid, call⟩ := message
    cases hitems
    cases htext
    exact ⟨_, rfl, notificationTree_faithful contract txid items⟩
  · cases h

theorem idealTrace_exact {block : Value} (h : block.PlainBlock) (records : Value) :
    ∀ publication ∈ idealTrace block records, Exact publication := by
  intro publication hp
  rcases List.mem_append.mp hp with hp | hp
  · exact blockPublications_exact h publication hp
  · obtain ⟨event, -, he⟩ := List.mem_filterMap.mp hp
    exact eventPublication_exact he

/-! ## Frames -/

def frameText (publication : Publication) : Text :=
  .ofString "\x7b\"type\":\"" ++ .ofString publication.1.name ++ .ofString "\",\"data\":" ++
    publication.2 ++ .ofString "\x7d"

theorem compact_wrap (channel : Channel) (j : Json) :
    (Envelope.wrap channel j).compact = frameText (channel, j.compact) := by
  simp only [Json.compact, Envelope.wrap, Json.write_object, frameText]
  cases channel <;>
    simp [Json.writeMember, Json.writeText, Json.separate, Json.escapeLetter, Json.escapeChar,
      Json.write, JsonLayout.compact, Channel.name, Text.ofString]

theorem envelope_text {tree : Json} (h : tree.Tidy) (channel : Channel) :
    (Envelope.mk channel tree.toValue).text = .ok (frameText (channel, tree.compact)) := by
  simp only [Envelope.text, Envelope.json, form_toValue h, Except.map, compact_wrap]

theorem frame_tidy (channel : Channel) {j : Json} (h : j.Tidy) :
    Broadcaster.frame (.ofSlot (.channel channel)) j.toValue =
      .ok (channel, frameText (channel, j.compact)) := by
  have named : (Value.ofSlot (.channel channel)).toChannel = .ok channel := by
    cases channel <;> rfl
  unfold Broadcaster.frame
  rw [named]
  simp only [bind, Except.bind, envelope_text h channel]

theorem parsePayload_compact {tree : Json} (h : tree.Faithful) (isObject : tree.isObject = true)
    {raw : Value} (text : payloadText raw = .ok tree.compact) (name : String) :
    parsePayload name raw = .ok tree := by
  simp only [parsePayload, text, readBody, Json.read_compact h, isObject, ↓reduceIte]

theorem Exact.parsePayload {publication : Publication} (h : Exact publication) (name : String) :
    ∃ j : Json, j.Faithful ∧ publication.2 = j.compact ∧
      LedgerFeed.parsePayload name (.text publication.2) = .ok j := by
  obtain ⟨members, htext, faithful⟩ := h
  refine ⟨.object members, faithful, htext, parsePayload_compact faithful rfl ?_ name⟩
  rw [htext]
  rfl

end LedgerFeed
