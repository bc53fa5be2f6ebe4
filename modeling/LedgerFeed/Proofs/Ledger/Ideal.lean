import LedgerFeed.Proofs.Ledger.Rendering
import LedgerFeed.Ledger.Publisher

namespace LedgerFeed

abbrev Publication := Channel × Text

/-! ## What should go out -/

def eventText (txid notification : Value) : Except Fault Text := do
  let (contract, state) ← Publisher.notificationParts notification
  let message ← encodeNotification contract txid state
  match message.text with
  | .ok payload => .ok payload
  | .error error => .error (.form error)

def blockPublications (block : Value) : List Publication :=
  match encodeBlock block with
  | .ok message =>
      match message.text with
      | .ok payload => [(.blocks, payload)]
      | .error _ => []
  | .error _ => []

def healthyEvents (value : Value) : List (Value × Value) :=
  match value.record "faulted" with
  | .error _ => []
  | .ok record =>
      match record.faulted, record.notifications.items with
      | .ok false, .ok notifications => notifications.map fun n => (record.txid, n)
      | _, _ => []

def announcements (records : Value) : List (Value × Value) :=
  match records.items with
  | .ok items => items.flatMap healthyEvents
  | .error _ => []

def eventPublication? (event : Value × Value) : Option Publication :=
  match eventText event.1 event.2 with
  | .ok payload => some (.events, payload)
  | .error _ => none

/-- What a commit should hand to the bus. -/
def idealTrace (block records : Value) : List Publication :=
  blockPublications block ++ (announcements records).filterMap eventPublication?

/-- A record that can be read: its state is a whole number and its notifications can be gone
through. -/
def Value.ReadableRecord (value : Value) : Prop :=
  ∃ record, value.record "faulted" = .ok record ∧ (∃ n, record.state.slot.int? = some n) ∧
    ∃ notifications, record.notifications.items = .ok notifications

def Value.RendersOrdinarily (block : Value) : Prop :=
  ∀ error, block.slot.cell? block.heap = some (.foreign (.raises error)) →
    error.isOrdinary = true

/-! ## Texts of messages -/

theorem encodeBlock_text {block : Value} {message : BlockMessage}
    (h : encodeBlock block = .ok message) : ∃ payload, message.text = .ok payload := by
  unfold encodeBlock at h
  obtain ⟨⟨heap, native⟩, -, h⟩ := bind_eq_ok.mp h
  dsimp only at h
  split at h
  · cases h
  · split at h
    · rename_i json hj
      cases h
      exact ⟨json.compact, by rw [BlockMessage.text, hj]; rfl⟩
    · cases h

theorem encodeBlock_ordinary {block : Value} {fault : Fault} (hb : block.RendersOrdinarily)
    (h : encodeBlock block = .error fault) : fault.isOrdinary = true := by
  unfold encodeBlock at h
  rcases bind_eq_error.mp h with h | ⟨⟨heap, native⟩, -, h⟩
  · rcases nativeFields_ordinary h with h | ⟨error, hcell, rfl⟩
    · exact h
    · exact hb error hcell
  · dsimp only at h
    split at h
    · cases h
      rfl
    · split at h <;> cases h
      rfl

theorem encodeBlock_raises {block : Value} {error : Raised}
    (h : block.slot.cell? block.heap = some (.foreign (.raises error))) :
    encodeBlock block = .error (.raised error) := by
  unfold encodeBlock nativeFields
  rw [h]
  rfl

theorem encodeNotification_rendered {contract txid state : Value} {message : NotificationMessage}
    (h : encodeNotification contract txid state = .ok message) :
    ∃ items call, state.items = .ok items ∧ items.mapM Value.render = .ok call ∧
      message.call = .rendered call := by
  unfold encodeNotification at h
  split at h
  · obtain ⟨items, hitems, h⟩ := bind_eq_ok.mp h
    obtain ⟨call, hcall, h⟩ := bind_eq_ok.mp h
    cases h
    exact ⟨items, call, hitems, hcall, rfl⟩
  · cases h
  · cases h

theorem encodeNotification_eq_ok {contract txid state : Value} {message : NotificationMessage}
    (h : encodeNotification contract txid state = .ok message) :
    ∃ items, message.call = .rendered items := by
  obtain ⟨-, call, -, -, hcall⟩ := encodeNotification_rendered h
  exact ⟨call, hcall⟩

theorem encodeNotification_text {contract txid state : Value} {message : NotificationMessage}
    (h : encodeNotification contract txid state = .ok message) :
    ∃ payload, message.text = .ok payload := by
  obtain ⟨items, hitems⟩ := encodeNotification_eq_ok h
  obtain ⟨contract, txid, call⟩ := message
  cases hitems
  exact ⟨_, rfl⟩

theorem notificationParts_error {notification : Value} {fault : Fault}
    (h : Publisher.notificationParts notification = .error fault) :
    fault.isEncoding = false ∧ fault.isOrdinary = true := by
  unfold Publisher.notificationParts at h
  split at h <;> cases h
  exact ⟨rfl, rfl⟩

theorem eventText_ordinary {txid notification : Value} {fault : Fault}
    (h : eventText txid notification = .error fault) : fault.isOrdinary = true := by
  unfold eventText at h
  rcases bind_eq_error.mp h with h | ⟨⟨contract, state⟩, -, h⟩
  · exact (notificationParts_error h).2
  · rcases bind_eq_error.mp h with h | ⟨message, hm, h⟩
    · exact encodeNotification_ordinary h
    · obtain ⟨payload, hp⟩ := encodeNotification_text hm
      simp [hp] at h

/-! ## Courses -/

structure Course where
  publications : List Publication
  ending : Option Fault

namespace Course

def silent : Course := ⟨[], none⟩

def andThen (first second : Course) : Course :=
  match first.ending with
  | none => ⟨first.publications ++ second.publications, second.ending⟩
  | some fault => ⟨first.publications, some fault⟩

@[simp] theorem andThen_on (publications : List Publication) (course : Course) :
    andThen ⟨publications, none⟩ course =
      ⟨publications ++ course.publications, course.ending⟩ := rfl

@[simp] theorem andThen_stop (publications : List Publication) (fault : Fault) (course : Course) :
    andThen ⟨publications, some fault⟩ course = ⟨publications, some fault⟩ := rfl

@[simp] theorem silent_andThen (course : Course) : silent.andThen course = course := rfl

@[simp] theorem andThen_silent (course : Course) : course.andThen silent = course := by
  rcases course with ⟨publications, _ | fault⟩ <;> simp [silent]

theorem andThen_assoc (first second third : Course) :
    (first.andThen second).andThen third = first.andThen (second.andThen third) := by
  rcases first with ⟨publications, _ | fault⟩
  · rcases second with ⟨more, _ | fault⟩ <;> simp
  · simp

def ofText : Except Fault Text → Course
  | .ok payload => ⟨[(.events, payload)], none⟩
  | .error fault => if fault.isEncoding then silent else ⟨[], some fault⟩

def ofTexts : List (Except Fault Text) → Course
  | [] => silent
  | text :: rest => (ofText text).andThen (ofTexts rest)

theorem ofText_error {fault : Fault} (h : fault.isEncoding = false) :
    ofText (.error fault) = ⟨[], some fault⟩ := by
  simp [ofText, h]

theorem ofTexts_single (text : Except Fault Text) : ofTexts [text] = ofText text := by
  simp [ofTexts]

theorem ofTexts_append (first second : List (Except Fault Text)) :
    ofTexts (first ++ second) = (ofTexts first).andThen (ofTexts second) := by
  induction first with
  | nil => rfl
  | cons text rest ih => rw [List.cons_append, ofTexts, ofTexts, ih, andThen_assoc]

end Course

def recordTexts (value : Value) : List (Except Fault Text) :=
  match value.record "faulted" with
  | .error fault => [.error fault]
  | .ok record =>
      match record.faulted, record.notifications.items with
      | .error fault, _ => [.error fault]
      | .ok true, .ok _ => []
      | .ok true, .error _ => [.error (.noLength record.notifications.typeName)]
      | .ok false, .ok notifications => notifications.map (eventText record.txid)
      | .ok false, .error fault => [.error fault]

def commitTexts (records : Value) : List (Except Fault Text) :=
  match records.items with
  | .ok items => items.flatMap recordTexts
  | .error fault => [.error fault]

theorem record_error {value : Value} {wanted : String} {fault : Fault}
    (h : value.record wanted = .error fault) :
    fault.isEncoding = false ∧ fault.isOrdinary = true := by
  unfold Value.record at h
  split at h <;> cases h
  exact ⟨rfl, rfl⟩

theorem faulted_error {record : Record} {fault : Fault} (h : record.faulted = .error fault) :
    fault.isEncoding = false ∧ fault.isOrdinary = true := by
  unfold Record.faulted at h
  split at h <;> cases h
  exact ⟨rfl, rfl⟩

theorem items_error {value : Value} {fault : Fault} (h : value.items = .error fault) :
    fault.isEncoding = false ∧ fault.isOrdinary = true := by
  unfold Value.items Slot.items at h
  split at h <;> cases h
  exact ⟨rfl, rfl⟩

theorem length_error {value : Value} {fault : Fault} (h : value.items = .error fault) :
    value.length = .error (.noLength value.typeName) := by
  unfold Value.items Slot.items at h
  unfold Value.length Slot.length
  split at h <;> cases h
  rfl

theorem items_length {value : Value} {items : List Value} (h : value.items = .ok items) :
    value.length = .ok items.length := by
  unfold Value.items Slot.items at h
  unfold Value.length Slot.length
  split at h <;> cases h
  simp

theorem recordTexts_ordinary {value : Value} {fault : Fault}
    (h : .error fault ∈ recordTexts value) : fault.isOrdinary = true := by
  unfold recordTexts at h
  split at h
  · rename_i hr
    cases List.mem_singleton.mp h
    exact (record_error hr).2
  · split at h
    · rename_i hf
      cases List.mem_singleton.mp h
      exact (faulted_error hf).2
    · cases h
    · cases List.mem_singleton.mp h
      rfl
    · obtain ⟨notification, -, hn⟩ := List.mem_map.mp h
      exact eventText_ordinary hn
    · rename_i hi
      cases List.mem_singleton.mp h
      exact (items_error hi).2

theorem commitTexts_ordinary {records : Value} {fault : Fault}
    (h : .error fault ∈ commitTexts records) : fault.isOrdinary = true := by
  unfold commitTexts at h
  split at h
  · obtain ⟨record, -, hr⟩ := List.mem_flatMap.mp h
    exact recordTexts_ordinary hr
  · rename_i hi
    cases List.mem_singleton.mp h
    exact (items_error hi).2

/-! ## Courses against the ideal -/

namespace Course

def textPublication? : Except Fault Text → Option Publication
  | .ok payload => some (.events, payload)
  | .error _ => none

def proceeds : Except Fault Text → Bool
  | .ok _ => true
  | .error fault => fault.isEncoding

@[simp] theorem textPublication?_ok (payload : Text) :
    textPublication? (.ok payload) = some (.events, payload) := rfl

@[simp] theorem textPublication?_error (fault : Fault) :
    textPublication? (.error fault) = none := rfl

@[simp] theorem proceeds_ok (payload : Text) : proceeds (.ok payload) = true := rfl

@[simp] theorem proceeds_error (fault : Fault) :
    proceeds (.error fault) = fault.isEncoding := rfl

theorem ofTexts_publications (texts : List (Except Fault Text)) :
    (ofTexts texts).publications = (texts.takeWhile proceeds).filterMap textPublication? := by
  induction texts with
  | nil => rfl
  | cons text rest ih =>
      cases text with
      | ok payload => simp [ofTexts, ofText, ih, List.takeWhile_cons]
      | error fault =>
          cases he : fault.isEncoding with
          | true => simp [ofTexts, ofText, he, ih, List.filterMap_cons]
          | false => simp [ofTexts, ofText, he]

theorem ofTexts_ending (texts : List (Except Fault Text)) :
    match (ofTexts texts).ending with
    | none => ∀ text ∈ texts, proceeds text = true
    | some fault => .error fault ∈ texts ∧ fault.isEncoding = false := by
  induction texts with
  | nil => simp [ofTexts, silent]
  | cons text rest ih =>
      cases text with
      | ok payload =>
          simp only [ofTexts, ofText, andThen_on]
          split at ih
          · simpa [proceeds] using ih
          · exact ⟨List.mem_cons_of_mem _ ih.1, ih.2⟩
      | error fault =>
          cases he : fault.isEncoding with
          | true =>
              simp only [ofTexts, ofText, he, ↓reduceIte, silent_andThen]
              split at ih
              · simpa [proceeds, he] using ih
              · exact ⟨List.mem_cons_of_mem _ ih.1, ih.2⟩
          | false => simp [ofTexts, ofText, he]

theorem ofTexts_prefix (texts : List (Except Fault Text)) :
    (ofTexts texts).publications <+: texts.filterMap textPublication? := by
  rw [ofTexts_publications]
  exact (List.takeWhile_prefix proceeds).filterMap textPublication?

end Course

theorem recordTexts_publications (value : Value) :
    (recordTexts value).filterMap Course.textPublication? =
      (healthyEvents value).filterMap eventPublication? := by
  unfold recordTexts healthyEvents
  cases value.record "faulted" with
  | error fault => rfl
  | ok record =>
      dsimp only
      cases record.faulted with
      | error fault => rfl
      | ok faulted =>
          cases faulted <;> cases record.notifications.items with
          | error fault => rfl
          | ok notifications => first | rfl | (simp only [List.filterMap_map]; rfl)

theorem commitTexts_publications (records : Value) :
    (commitTexts records).filterMap Course.textPublication? =
      (announcements records).filterMap eventPublication? := by
  unfold commitTexts announcements
  cases records.items with
  | error fault => rfl
  | ok items =>
      simp only [List.filterMap_flatMap, recordTexts_publications]

theorem recordTexts_readable {value : Value} (h : value.ReadableRecord) :
    recordTexts value = (healthyEvents value).map fun event => eventText event.1 event.2 := by
  obtain ⟨record, hr, ⟨n, hn⟩, notifications, hi⟩ := h
  have hf : record.faulted = .ok (hasFault n) := by
    unfold Record.faulted
    rw [hn]
  unfold recordTexts healthyEvents
  simp only [hr, hf, hi]
  cases hasFault n with
  | true => rfl
  | false => simp [Function.comp_def]

theorem commitTexts_readable {records : Value} {items : List Value} (hi : records.items = .ok items)
    (h : ∀ record ∈ items, record.ReadableRecord) :
    commitTexts records =
      (announcements records).map fun event => eventText event.1 event.2 := by
  unfold commitTexts announcements
  simp only [hi, List.map_flatMap]
  exact List.flatMap_congr fun record hr => recordTexts_readable (h record hr)

end LedgerFeed
