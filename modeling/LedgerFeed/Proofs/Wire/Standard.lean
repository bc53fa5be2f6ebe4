import LedgerFeed.Proofs.Json.Standard
import LedgerFeed.Proofs.Value.Floats
import LedgerFeed.Proofs.Wire.Frames
import LedgerFeed.Proofs.Wire.Messages

namespace LedgerFeed

/-! ## Notifications -/

theorem notification_standard {contract txid state : Value} {message : NotificationMessage}
    (h : encodeNotification contract txid state = .ok message) :
    ∃ payload, message.text = .ok payload ∧ Json.IsText payload := by
  obtain ⟨items, hitems⟩ := encodeNotification_eq_ok h
  obtain ⟨contract, txid, call⟩ := message
  cases hitems
  have faithful := notificationTree_faithful contract txid items
  refine ⟨(notificationTree contract txid items).compact, rfl, ?_⟩
  exact Json.isText_iff.mpr faithful.floats

/-! ## Blocks -/

def BlockMessage.Finite (message : BlockMessage) : Prop :=
  ∀ field ∈ message.fields, AllFloats (fun x => x.isFinite = true) message.heap field.2

theorem finite_append {members : List (Text × Json)} {last : Text × Json}
    (h : last.2.Finite) :
    (Json.object (members ++ [last])).Finite ↔ (Json.object members).Finite := by
  constructor
  · intro all
    cases all with
    | object inner => exact .object fun member hm => inner member (List.mem_append_left _ hm)
  · intro all
    cases all with
    | object inner =>
        refine .object fun member hm => ?_
        rcases List.mem_append.mp hm with hm | hm
        · exact inner member hm
        · cases List.mem_singleton.mp hm
          exact h

theorem block_standard {block : Value} {message : BlockMessage}
    (h : encodeBlock block = .ok message) :
    ∃ payload, message.text = .ok payload ∧ (Json.IsText payload ↔ message.Finite) := by
  obtain ⟨confirmed, ⟨tree, htree⟩, -⟩ := encodeBlock_eq_ok h
  refine ⟨tree.compact, by rw [BlockMessage.text, htree]; rfl, ?_⟩
  rw [json_members confirmed] at htree
  obtain ⟨members, hmembers, rfl⟩ := map_eq_ok.mp htree
  have last : (Json.int blockConfirmations).Finite := .int _
  rw [Json.compact, Json.isText_iff, finite_append last]
  exact floats_members (fun field _ j hj => form_floats hj) hmembers

theorem json_error {message : BlockMessage} (confirmed : message.Confirmed) :
    (∃ error, message.json = .error error) ↔
      ∃ field ∈ message.fields, ∃ error, formEntry message.heap [] field = .error error := by
  rw [json_members confirmed]
  constructor
  · rintro ⟨error, h⟩
    obtain ⟨field, hfield, formless⟩ := mapM_eq_error (map_eq_error.mp h)
    exact ⟨field, hfield, error, formless⟩
  · rintro ⟨field, hfield, error, formless⟩
    cases found : message.fields.mapM (formEntry message.heap []) with
    | error other => exact ⟨other, rfl⟩
    | ok members =>
        obtain ⟨member, -, formed⟩ := mapM_ok_of_mem found hfield
        rw [formless] at formed
        cases formed

theorem encodeBlock_refuses {block : Value} {heap : Heap} {native : List (Slot × Slot)}
    (h : nativeFields block = .ok (heap, native)) :
    (∃ error, encodeBlock block = .error (.encoding error)) ↔
      copyFault? heap [] (native.flatMap fun (key, item) => [item, key]) = none ∧
        ∃ field ∈ native, field.1.text? ≠ some (.ofString "confirmations") ∧
          ∃ error, formEntry heap [] field = .error error := by
  let message : BlockMessage :=
    ⟨heap, native.filter fun (key, _) => key.text? ≠ some (.ofString "confirmations"),
      .int blockConfirmations⟩
  have own {field : Slot × Slot} : field ∈ message.fields ↔
      field ∈ native ∧ field.1.text? ≠ some (.ofString "confirmations") := by
    simp only [message, List.mem_filter, decide_eq_true_eq]
  have confirmed : message.Confirmed := ⟨rfl, fun field hf => (own.mp hf).2⟩
  have formless := json_error confirmed
  simp only [encodeBlock, h, bind, Except.bind]
  cases copyFault? heap [] (native.flatMap fun (key, item) => [item, key]) with
  | some what => simp
  | none =>
      simp only [true_and, ← and_assoc, ← own]
      rw [← formless]
      cases message.json <;> simp

/-! ## Frames -/

theorem wrap_finite (channel : Channel) {body : Json} :
    (Envelope.wrap channel body).Finite ↔ body.Finite := by
  constructor
  · intro all
    cases all with
    | object inner => exact inner (.ofString "data", body) (by simp)
  · intro finite
    refine .object fun member hm => ?_
    simp only [List.mem_cons, List.not_mem_nil, or_false] at hm
    rcases hm with rfl | rfl
    · exact .string _
    · exact finite

theorem frame_standard {name : String} {raw : Value} {body : Json} (channel : Channel)
    (accepted : parsePayload name raw = .ok body) :
    ∃ frame, Broadcaster.frame (.ofSlot (.channel channel)) body.toValue = .ok (channel, frame) ∧
      (Json.IsText frame ↔ body.Finite) := by
  obtain ⟨tidy, -⟩ := parsePayload_tidy accepted
  refine ⟨_, frame_tidy channel tidy, ?_⟩
  rw [← compact_wrap, Json.compact, Json.isText_iff, wrap_finite]

/-! ## What leaves the system -/

theorem standard_text_leaves (contract txid state block raw : Value) (channel : Channel)
    (name : String) :
    (∀ message, encodeNotification contract txid state = .ok message →
      ∃ payload, message.text = .ok payload ∧ Json.IsText payload) ∧
    (∀ message, encodeBlock block = .ok message →
      ∃ payload, message.text = .ok payload ∧ (Json.IsText payload ↔ message.Finite)) ∧
    (∀ heap native, nativeFields block = .ok (heap, native) →
      ((∃ error, encodeBlock block = .error (.encoding error)) ↔
        copyFault? heap [] (native.flatMap fun (key, item) => [item, key]) = none ∧
          ∃ field ∈ native, field.1.text? ≠ some (.ofString "confirmations") ∧
            ∃ error, formEntry heap [] field = .error error)) ∧
    (∀ body, parsePayload name raw = .ok body →
      ∃ frame, Broadcaster.frame (.ofSlot (.channel channel)) body.toValue = .ok (channel, frame) ∧
        (Json.IsText frame ↔ body.Finite)) :=
  ⟨fun _ => notification_standard, fun _ => block_standard, fun _ _ => encodeBlock_refuses,
    fun _ => frame_standard channel⟩

def sizedBlock (x : Binary64) : Value := ⟨#[.dict [(.text "size", .float x)]], .object 0⟩

def sizedMessage (x : Binary64) : BlockMessage :=
  ⟨#[.dict [(.text "size", .float x)]], [(.text "size", .float x)], .int blockConfirmations⟩

def sizedTree (x : Binary64) : Json :=
  .object [(.ofString "size", .float x), (.ofString "confirmations", .int blockConfirmations)]

theorem sizedMessage_json (x : Binary64) : (sizedMessage x).json = .ok (sizedTree x) := by
  have confirmed : (sizedMessage x).Confirmed := by
    refine ⟨rfl, fun field hf => ?_⟩
    cases List.mem_singleton.mp hf
    simp [Slot.text?]
  have value : form (sizedMessage x).heap [] (.float x) = .ok (.float x) := by rw [form.eq_def]
  have fields : (sizedMessage x).fields.mapM (formEntry (sizedMessage x).heap []) =
      .ok [(.ofString "size", .float x)] := by
    change [(Slot.text "size", Slot.float x)].mapM (formEntry (sizedMessage x).heap []) = _
    simp only [List.mapM_cons, List.mapM_nil, formEntry, memberName, value]
    rfl
  rw [json_members confirmed, fields]
  rfl

theorem encodeBlock_sized (x : Binary64) : encodeBlock (sizedBlock x) = .ok (sizedMessage x) := by
  have native : nativeFields (sizedBlock x) =
      .ok ((sizedMessage x).heap, [(.text "size", .float x)]) := rfl
  have copied : copyFault? (sizedMessage x).heap [] [.float x, .text "size"] = none := by
    simp [copyFault?]
  have own : [(Slot.text "size", Slot.float x)].filter
      (fun field => field.1.text? ≠ some (.ofString "confirmations")) = (sizedMessage x).fields :=
    rfl
  have json : BlockMessage.json ⟨(sizedMessage x).heap, (sizedMessage x).fields,
      .int blockConfirmations⟩ = _ := sizedMessage_json x
  simp only [encodeBlock, native, bind, Except.bind, List.flatMap_cons, List.flatMap_nil,
    List.cons_append, List.nil_append, copied, own, json]
  rfl

def loneBody (x : Binary64) : Json := .object [(.ofString "x", .float x)]

def loneLeaf? : Except Fault Json → Option (Text × Binary64)
  | .ok (.object [(name, .float x)]) => some (name, x)
  | _ => none

theorem eq_loneBody {result : Except Fault Json} {x : Binary64}
    (h : loneLeaf? result = some (.ofString "x", x)) : result = .ok (loneBody x) := by
  unfold loneLeaf? at h
  split at h
  · cases h
    rfl
  · cases h

theorem parsePayload_lone :
    parsePayload "events" (.text "\x7b\"x\":1.5\x7d") =
        .ok (loneBody (.finite false (3 * 2 ^ 51) (-52))) ∧
      parsePayload "events" (.text "\x7b\"x\":NaN\x7d") = .ok (loneBody .nan) := by
  constructor
  · exact eq_loneBody (by decide +kernel)
  · exact eq_loneBody (by decide +kernel)

def unformedBlock : Value := ⟨#[.dict [(.text "tx", .object 1)], .set []], .object 0⟩

theorem unformedBlock_copied :
    copyFault? unformedBlock.heap [] [.object 1, .text "tx"] = none := by
  unfold unformedBlock
  cbv

theorem unformedBlock_field : formEntry unformedBlock.heap [] (.text "tx", .object 1) =
    .error (.notSerializable "set") := by
  have value : form unformedBlock.heap [] (.object 1) = .error (.notSerializable "set") := by
    rw [form.eq_def]
    rfl
  rw [formEntry, value]
  rfl

theorem standard_text_leaves_sized :
    (∃ message, encodeNotification (.text "0xCC") (.text "0xT1") ⟨confirmedCommit, .object 3⟩ =
        .ok message ∧ ∃ payload, message.text = .ok payload ∧ Json.IsText payload) ∧
    encodeBlock (sizedBlock (.finite false 3 (-1))) = .ok (sizedMessage (.finite false 3 (-1))) ∧
      (∃ payload, (sizedMessage (.finite false 3 (-1))).text = .ok payload ∧
        (Json.IsText payload ↔ (sizedMessage (.finite false 3 (-1))).Finite)) ∧
    (∃ error, encodeBlock unformedBlock = .error (.encoding error)) ∧
    parsePayload "events" (.text "\x7b\"x\":1.5\x7d") =
        .ok (loneBody (.finite false (3 * 2 ^ 51) (-52))) ∧
      ∃ frame, Broadcaster.frame (.ofSlot (.channel .events))
          (loneBody (.finite false (3 * 2 ^ 51) (-52))).toValue = .ok (.events, frame) ∧
        (Json.IsText frame ↔ (loneBody (.finite false (3 * 2 ^ 51) (-52))).Finite) := by
  obtain ⟨notifications, blocks, -, frames⟩ := standard_text_leaves (.text "0xCC") (.text "0xT1")
    ⟨confirmedCommit, .object 3⟩ (sizedBlock (.finite false 3 (-1))) (.text "\x7b\"x\":1.5\x7d")
    .events "events"
  obtain ⟨-, -, refusals, -⟩ := standard_text_leaves (.text "0xCC") (.text "0xT1")
    ⟨confirmedCommit, .object 3⟩ unformedBlock (.text "") .events "events"
  have refused := (refusals _ _ rfl).mpr ⟨unformedBlock_copied,
    (.text "tx", .object 1), by simp, by simp [Slot.text?], _, unformedBlock_field⟩
  exact ⟨⟨_, encodeNotification_confirmedCommit,
      notifications _ encodeNotification_confirmedCommit⟩,
    encodeBlock_sized _, blocks _ (encodeBlock_sized _), refused,
    parsePayload_lone.1, frames _ parsePayload_lone.1⟩

/-- A number that is not one goes out on the bus and to clients. -/
theorem nan_leaves :
    (encodeBlock (sizedBlock .nan) = .ok (sizedMessage .nan) ∧
      (sizedMessage .nan).text = .ok (.ofString "\x7b\"size\":NaN,\"confirmations\":1\x7d") ∧
      ¬ Json.IsText (.ofString "\x7b\"size\":NaN,\"confirmations\":1\x7d")) ∧
    (parsePayload "events" (.text "\x7b\"x\":NaN\x7d") = .ok (loneBody .nan) ∧
      Broadcaster.frame (.ofSlot (.channel .events)) (loneBody .nan).toValue =
        .ok (.events, .ofString "\x7b\"type\":\"events\",\"data\":\x7b\"x\":NaN\x7d\x7d") ∧
      ¬ Json.IsText (.ofString "\x7b\"type\":\"events\",\"data\":\x7b\"x\":NaN\x7d\x7d")) := by
  have block : (sizedTree .nan).compact = .ofString "\x7b\"size\":NaN,\"confirmations\":1\x7d" := by
    decide +kernel
  have body : (loneBody .nan).compact = .ofString "\x7b\"x\":NaN\x7d" := by decide +kernel
  have tidy : (loneBody .nan).Tidy := by
    refine .object (by simp) fun member hm => ?_
    cases List.mem_singleton.mp hm
    exact .float _
  refine ⟨⟨encodeBlock_sized _, ?_, fun h => ?_⟩, parsePayload_lone.2, ?_, fun h => ?_⟩
  · rw [BlockMessage.text, sizedMessage_json, ← block]
    rfl
  · exact absurd rfl (h.clear.letters 'N' (by decide +kernel)).1
  · rw [frame_tidy .events tidy, body]
    rfl
  · exact absurd rfl (h.clear.letters 'N' (by decide +kernel)).1

end LedgerFeed
