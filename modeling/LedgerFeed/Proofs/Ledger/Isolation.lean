import LedgerFeed.Proofs.Ledger.Trace

namespace LedgerFeed

/-! ## Lists cut at an item -/

theorem takeWhile_congr {α : Type} {p q : α → Bool} {l : List α} (h : ∀ x ∈ l, p x = q x) :
    l.takeWhile p = l.takeWhile q := by
  induction l with
  | nil => rfl
  | cons x rest ih =>
      simp only [List.takeWhile_cons, h x List.mem_cons_self,
        ih fun y hy => h y (List.mem_cons_of_mem x hy)]

theorem filterMap_takeWhile_iff {α β : Type} {f : α → Option β} {p : α → Bool}
    (hp : ∀ x, p x = false → f x = none) (l : List α) :
    (l.takeWhile p).filterMap f = l.filterMap f ↔
      ∀ earlier x later, l = earlier ++ x :: later → p x = false → ∀ y ∈ later, f y = none := by
  induction l with
  | nil => simp
  | cons x rest ih =>
      cases hx : p x with
      | true =>
          have cancel : ((x :: rest).takeWhile p).filterMap f = (x :: rest).filterMap f ↔
              (rest.takeWhile p).filterMap f = rest.filterMap f := by
            cases hf : f x <;> simp [hx, hf]
          rw [cancel, ih]
          constructor
          · intro h earlier z later hl hz
            cases earlier with
            | nil =>
                cases hl
                rw [hx] at hz
                cases hz
            | cons w before =>
                cases hl
                exact h before z later rfl hz
          · intro h earlier z later hl
            exact h (x :: earlier) z later (by rw [hl]; rfl)
      | false =>
          have cut : ((x :: rest).takeWhile p).filterMap f = (x :: rest).filterMap f ↔
              ∀ y ∈ rest, f y = none := by
            simp [hx, hp x hx, eq_comm]
          rw [cut]
          constructor
          · intro h earlier z later hl hz y hy
            cases earlier with
            | nil =>
                cases hl
                exact h y hy
            | cons w before =>
                cases hl
                exact h y (by simp [hy])
          · intro h
            exact h [] x rest rfl hx

/-! ## Notifications that cannot be told -/

theorem renderParameter_long {heap : Heap} {path : List Identity} {identity : Identity} {n : Int}
    (bound : identity < heap.size)
    (hcell : heap[identity] = .parameter (.text "Integer") (.int n))
    (hn : exceedsDigitLimit n = true) :
    renderParameter heap path (.object identity) = .error (.form .tooManyDigits) := by
  have kind : kindOf? (.text "Integer") = some .integer := by decide
  rw [renderParameter, dif_pos bound, hcell]
  simp only [kind, renderScalar, hn, ↓reduceIte]
  rfl

theorem eventText_single {txid notification contract state item : Value} {c t : Word}
    (hparts : Publisher.notificationParts notification = .ok (contract, state))
    (hc : nonempty? contract.slot = some c) (ht : nonempty? txid.slot = some t)
    (hi : state.items = .ok [item]) :
    eventText txid notification = item.render.map fun rendered =>
      (Json.object [("contract", .string c.content), ("txid", .string t.content),
        ("call", .array [rendered.json])]).compact := by
  unfold eventText encodeNotification
  simp only [hparts, hc, ht, hi, bind, Except.bind, List.mapM_cons, List.mapM_nil]
  cases item.render <;> rfl

def isTooLong (event : Value × Value) : Bool :=
  match eventText event.1 event.2 with
  | .error (.form .tooManyDigits) => true
  | _ => false

theorem isTooLong_iff {event : Value × Value} :
    isTooLong event = true ↔ eventText event.1 event.2 = .error (.form .tooManyDigits) := by
  unfold isTooLong
  split
  · rename_i h
    simp [h]
  · rename_i h
    simpa using h

structure Regular (records : Value) : Prop where
  readable : ∃ items, records.items = .ok items ∧ ∀ record ∈ items, record.ReadableRecord
  carried : ∀ event ∈ announcements records, ∃ contract state items,
    Publisher.notificationParts event.2 = .ok (contract, state) ∧ state.items = .ok items

/-- No encodable event of the commit is kept back: the block lets the commit begin, and nothing
encodable comes after a notification with too long a number. -/
def NothingLost (block records : Value) : Prop :=
  (block.RendersOrdinarily ∨ ∀ event ∈ announcements records, eventPublication? event = none) ∧
    ∀ earlier long later, announcements records = earlier ++ long :: later →
      isTooLong long = true → ∀ event ∈ later, eventPublication? event = none

namespace Regular

variable {records : Value}

theorem fault (h : Regular records) {event : Value × Value} (he : event ∈ announcements records)
    {fault : Fault} (hf : eventText event.1 event.2 = .error fault) : fault.OfRendering := by
  obtain ⟨contract, state, items, hparts, hitems⟩ := h.carried event he
  unfold eventText at hf
  simp only [hparts, bind, Except.bind] at hf
  cases hm : encodeNotification contract event.1 state with
  | error other =>
      rw [hm] at hf
      cases hf
      exact encodeNotification_fault hitems hm
  | ok message =>
      obtain ⟨payload, ht⟩ := encodeNotification_text hm
      simp [hm, ht] at hf

theorem proceeds (h : Regular records) {event : Value × Value}
    (he : event ∈ announcements records) :
    Course.proceeds (eventText event.1 event.2) = !isTooLong event := by
  cases ht : eventText event.1 event.2 with
  | ok payload => simp [isTooLong, ht]
  | error fault =>
      rcases h.fault he ht with hf | rfl
      · cases fault with
        | encoding error => simp [isTooLong, ht, Fault.isEncoding]
        | _ => cases hf
      · simp [isTooLong, ht, Fault.isEncoding]

theorem publications (h : Regular records) :
    (Course.ofTexts (commitTexts records)).publications =
      ((announcements records).takeWhile fun event => !isTooLong event).filterMap
        eventPublication? := by
  obtain ⟨items, hi, hread⟩ := h.readable
  have cut : (announcements records).takeWhile
        (Course.proceeds ∘ fun event => eventText event.1 event.2) =
      (announcements records).takeWhile fun event => !isTooLong event :=
    takeWhile_congr fun event he => h.proceeds he
  rw [Course.ofTexts_publications, commitTexts_readable hi hread, List.takeWhile_map,
    List.filterMap_map, cut]
  rfl

end Regular

namespace Publisher

variable {β : Type} {operations : BusOperations β}

theorem events_of_trace (block : Value) (events : List (Value × Value)) :
    (blockPublications block ++ events.filterMap eventPublication?).filter
        (fun publication => publication.1 = .events) = events.filterMap eventPublication? := by
  have hblock : (blockPublications block).filter (fun p => p.1 = .events) = [] := by
    unfold blockPublications
    repeat' split
    all_goals rfl
  have hevents : ∀ p ∈ events.filterMap eventPublication?, p.1 = .events := by
    intro p hp
    obtain ⟨event, -, he⟩ := List.mem_filterMap.mp hp
    unfold eventPublication? at he
    split at he
    · cases he
      rfl
    · cases he
  rw [List.filter_append, hblock, List.nil_append, List.filter_eq_self]
  simpa using hevents

/-- What a commit asks of the bus: the block, and the events before the first number that is too
long. This is every encodable event, each once and in order, exactly if nothing is lost. -/
theorem onCommit_isolates (ho : operations.RaisesOrdinary) {records : Value}
    (hr : Regular records) (block : Value) (state : Publishing (Recorded β)) :
    ∃ trace,
      (onCommit operations.recording block records state).2.bus.asked =
        state.bus.asked ++ trace ∧
      (block.RendersOrdinarily → trace = blockPublications block ++
        ((announcements records).takeWhile fun event => !isTooLong event).filterMap
          eventPublication?) ∧
      (trace.filter (fun publication => publication.1 = .events) =
          (announcements records).filterMap eventPublication? ↔
        NothingLost block records) := by
  have silent : ∀ event, (!isTooLong event) = false → eventPublication? event = none := by
    intro event h
    unfold eventPublication?
    rw [isTooLong_iff.mp (by simpa using h)]
  rcases renders_or_raises block with hb | ⟨error, hcell, herr⟩
  · obtain ⟨-, hbus⟩ := onCommit_ok ho.recording hb records state
    rw [hr.publications] at hbus
    refine ⟨_, by rw [hbus, BusOperations.recording_replay_asked], fun _ => rfl, ?_⟩
    rw [events_of_trace, filterMap_takeWhile_iff silent]
    simp [NothingLost, hb]
  · have hb : ¬ block.RendersOrdinarily := by
      intro renders
      have caught := renders error hcell
      rw [herr] at caught
      cases caught
    obtain ⟨-, hbus⟩ := @onCommit_raises _ operations.recording _ _ hcell herr records state
    refine ⟨[], by rw [hbus, List.append_nil], fun h => absurd h hb, ?_⟩
    constructor
    · intro h
      have none_sent : ∀ event ∈ announcements records, eventPublication? event = none := by
        simpa [eq_comm] using h
      refine ⟨.inr none_sent, fun earlier long later hl _ event he => none_sent event ?_⟩
      simp [hl, he]
    · rintro ⟨hb' | none_sent, -⟩
      · exact absurd hb' hb
      · simpa [eq_comm] using none_sent

def longCommit : Heap :=
  #[.parameter (.text "Integer") (.int (Nat.pow 10 4300)), .list [.object 0],
    .notification (.text "0xCC") (.object 1),
    .parameter (.text "String") (.text "ok"), .list [.object 3],
    .notification (.text "0xCC") (.object 4),
    .list [.object 2, .object 5], .record (.text "0xT1") (.state 1) (.object 6), .list [.object 7]]

theorem longCommit_announcements :
    announcements ⟨longCommit, .object 8⟩ =
      [(⟨longCommit, .text "0xT1"⟩, ⟨longCommit, .object 2⟩),
       (⟨longCommit, .text "0xT1"⟩, ⟨longCommit, .object 5⟩)] := by
  rfl

theorem longCommit_regular : Regular ⟨longCommit, .object 8⟩ where
  readable := by
    refine ⟨[⟨longCommit, .object 7⟩], rfl, ?_⟩
    simp only [List.mem_singleton, forall_eq]
    exact ⟨_, rfl, ⟨1, rfl⟩, _, rfl⟩
  carried := by
    rw [longCommit_announcements]
    simp only [List.mem_cons, List.not_mem_nil, or_false, forall_eq_or_imp, forall_eq]
    exact ⟨⟨_, _, _, rfl, rfl⟩, ⟨_, _, _, rfl, rfl⟩⟩

theorem onCommit_isolates_longCommit :
    BusOperations.everyOther.RaisesOrdinary ∧ Regular ⟨longCommit, .object 8⟩ ∧
      ∃ trace,
        (onCommit BusOperations.everyOther.recording .null ⟨longCommit, .object 8⟩
          ⟨.zero, ⟨0, [], []⟩, []⟩).2.bus.asked = [] ++ trace ∧
        (Value.null.RendersOrdinarily → trace = blockPublications .null ++
          ((announcements ⟨longCommit, .object 8⟩).takeWhile
            fun event => !isTooLong event).filterMap eventPublication?) ∧
        (trace.filter (fun publication => publication.1 = .events) =
            (announcements ⟨longCommit, .object 8⟩).filterMap eventPublication? ↔
          NothingLost .null ⟨longCommit, .object 8⟩) :=
  ⟨BusOperations.everyOther_raisesOrdinary, longCommit_regular,
    onCommit_isolates BusOperations.everyOther_raisesOrdinary longCommit_regular .null
      ⟨.zero, ⟨0, [], []⟩, []⟩⟩

theorem longCommit_first : eventText ⟨longCommit, .text "0xT1"⟩ ⟨longCommit, .object 2⟩ =
    .error (.form .tooManyDigits) := by
  have long : Value.render ⟨longCommit, .object 0⟩ = .error (.form .tooManyDigits) :=
    renderParameter_long (by decide) rfl (by decide +kernel)
  rw [@eventText_single _ _ ⟨longCommit, .text "0xCC"⟩ ⟨longCommit, .object 1⟩
    ⟨longCommit, .object 0⟩ (.text "0xCC") (.text "0xT1") rfl rfl rfl rfl, long]
  rfl

theorem longCommit_second :
    ∃ payload, eventText ⟨longCommit, .text "0xT1"⟩ ⟨longCommit, .object 5⟩ = .ok payload := by
  have short : Value.render ⟨longCommit, .object 3⟩ = .ok (.scalar .string (.word (.text "ok"))) := by
    unfold Value.render
    rw [renderParameter, dif_pos (by decide)]
    rfl
  rw [@eventText_single _ _ ⟨longCommit, .text "0xCC"⟩ ⟨longCommit, .object 4⟩
    ⟨longCommit, .object 3⟩ (.text "0xCC") (.text "0xT1") rfl rfl rfl rfl, short]
  exact ⟨_, rfl⟩

theorem onCommit_loses :
    (∃ payload, eventText ⟨longCommit, .text "0xT1"⟩ ⟨longCommit, .object 5⟩ = .ok payload) ∧
      (onCommit BusOperations.everyOther.recording .null ⟨longCommit, .object 8⟩
        ⟨.zero, ⟨0, [], []⟩, []⟩).2.bus.asked = [] := by
  have renders : Value.null.RendersOrdinarily := fun _ h => by cases h
  have first : isTooLong (⟨longCommit, .text "0xT1"⟩, ⟨longCommit, .object 2⟩) = true :=
    isTooLong_iff.mpr longCommit_first
  refine ⟨longCommit_second, ?_⟩
  rw [(onCommit_ok BusOperations.everyOther_raisesOrdinary.recording renders _ _).2,
    BusOperations.recording_replay_asked, longCommit_regular.publications,
    longCommit_announcements]
  simp only [List.takeWhile_cons, first]
  rfl

end Publisher

end LedgerFeed
