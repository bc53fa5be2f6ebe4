import Mathlib.Data.List.TakeWhile
import LedgerFeed.Proofs.Ledger.Ideal

/-!
# The trace of a commit

`Hands` says of a part of a commit what it asks of the bus and how it ends. That does not depend on
what the bus answers, so it is read off the block and the records (`publishCommit_hands`).
`onCommit_trace` is the statement for a whole commit on a bus that keeps what it is asked.
-/

namespace LedgerFeed

structure Recorded (β : Type) where
  bus : β
  asked : List Publication
  taken : List Publication

namespace BusOperations

variable {β : Type}

def RaisesOrdinary (operations : BusOperations β) : Prop :=
  ∀ bus channel payload fault,
    (operations.publish bus channel payload).2 = .error fault → fault.isOrdinary = true

def replay (operations : BusOperations β) (bus : β) (publications : List Publication) : β :=
  publications.foldl (fun bus p => (operations.publish bus p.1 p.2).1) bus

@[simp] theorem replay_nil (operations : BusOperations β) (bus : β) :
    operations.replay bus [] = bus := rfl

@[simp] theorem replay_cons (operations : BusOperations β) (bus : β) (p : Publication)
    (rest : List Publication) :
    operations.replay bus (p :: rest) =
      operations.replay (operations.publish bus p.1 p.2).1 rest := rfl

theorem replay_append (operations : BusOperations β) (bus : β) (first second : List Publication) :
    operations.replay bus (first ++ second) =
      operations.replay (operations.replay bus first) second :=
  List.foldl_append

def recording (operations : BusOperations β) : BusOperations (Recorded β) where
  publish recorded channel payload :=
    let (bus, outcome) := operations.publish recorded.bus channel payload
    let taken := match outcome with
      | .ok _ => [(channel, payload)]
      | .error _ => []
    (⟨bus, recorded.asked ++ [(channel, payload)], recorded.taken ++ taken⟩, outcome)
  close recorded :=
    let (bus, outcome) := operations.close recorded.bus
    ({ recorded with bus := bus }, outcome)

theorem RaisesOrdinary.recording {operations : BusOperations β}
    (h : operations.RaisesOrdinary) : operations.recording.RaisesOrdinary :=
  fun recorded channel payload fault failed => h recorded.bus channel payload fault failed

theorem recording_replay_asked (operations : BusOperations β) (recorded : Recorded β)
    (publications : List Publication) :
    (operations.recording.replay recorded publications).asked = recorded.asked ++ publications := by
  induction publications generalizing recorded with
  | nil => simp
  | cons p rest ih =>
      rw [replay_cons, ih]
      simp [BusOperations.recording]

def everyOther : BusOperations Nat where
  publish asked _ _ :=
    (asked + 1, if asked % 2 = 0 then .ok () else .error (.raised ⟨"ValueError", false, none⟩))
  close asked := (asked, .ok ())

theorem everyOther_raisesOrdinary : everyOther.RaisesOrdinary := by
  intro asked channel payload fault h
  simp only [everyOther] at h
  split at h
  · cases h
  · cases h
    decide

end BusOperations

/-! ## What a part of a commit hands to the bus -/

namespace Publisher

variable {β α γ : Type} {operations : BusOperations β}

theorem run_bind (m : PublishM β α) (f : α → PublishM β γ) (state : Publishing β) :
    (m >>= f).run state = match m.run state with
      | (.ok a, next) => (f a).run next
      | (.error fault, next) => (.error fault, next) := by
  change (ExceptT.bind m f) state = _
  simp only [ExceptT.bind, ExceptT.mk, ExceptT.run]
  change (StateT.bind m (ExceptT.bindCont f)) state = _
  simp only [StateT.bind]
  rcases m state with ⟨_ | a, next⟩ <;> rfl

def Hands (operations : BusOperations β) (m : PublishM β α) (course : Course) : Prop :=
  ∀ state, (m.run state).2.bus = operations.replay state.bus course.publications ∧
    match course.ending with
    | none => ∃ a, (m.run state).1 = .ok a
    | some fault => (m.run state).1 = .error fault

namespace Hands

theorem bind_stop {m : PublishM β α} {f : α → PublishM β γ} {publications : List Publication}
    {fault : Fault} (hm : Hands operations m ⟨publications, some fault⟩) :
    Hands operations (m >>= f) ⟨publications, some fault⟩ := by
  intro state
  obtain ⟨hbus, hend⟩ := hm state
  have hrun : (m >>= f).run state = (.error fault, (m.run state).2) := by
    rw [run_bind, show m.run state = (.error fault, (m.run state).2) from Prod.ext hend rfl]
  rw [hrun]
  exact ⟨hbus, rfl⟩

theorem bind {m : PublishM β α} {f : α → PublishM β γ} {first second : Course}
    (hm : Hands operations m first) (hf : ∀ a, Hands operations (f a) second) :
    Hands operations (m >>= f) (first.andThen second) := by
  rcases first with ⟨publications, _ | fault⟩
  · intro state
    obtain ⟨hbus, a, ha⟩ := hm state
    obtain ⟨hnext, hlast⟩ := hf a (m.run state).2
    have hrun : (m >>= f).run state = (f a).run (m.run state).2 := by
      rw [run_bind, show m.run state = (.ok a, (m.run state).2) from Prod.ext ha rfl]
    rw [hrun, Course.andThen_on, BusOperations.replay_append, ← hbus]
    exact ⟨hnext, hlast⟩
  · exact hm.bind_stop

theorem pure (a : α) : Hands operations (Pure.pure a : PublishM β α) .silent :=
  fun _ => ⟨rfl, a, rfl⟩

theorem throw (fault : Fault) :
    Hands operations (MonadExcept.throw fault : PublishM β α) ⟨[], some fault⟩ :=
  fun _ => ⟨rfl, rfl⟩

theorem lift_ok {x : Except Fault α} {a : α} {f : α → PublishM β γ} {course : Course}
    (h : x = .ok a) (hf : Hands operations (f a) course) :
    Hands operations (liftM x >>= f) course := by
  subst h
  exact hf

theorem lift_error {x : Except Fault α} {fault : Fault} {f : α → PublishM β γ}
    (h : x = .error fault) : Hands operations (liftM x >>= f) ⟨[], some fault⟩ := by
  subst h
  exact fun _ => ⟨rfl, rfl⟩

theorem count (change : CommitStats → CommitStats) :
    Hands operations (Publisher.count change) .silent :=
  fun _ => ⟨rfl, (), rfl⟩

theorem log (level : Level) (event : String) (fields : List (String × Value)) :
    Hands operations (Publisher.log level event fields) .silent :=
  fun _ => ⟨rfl, (), rfl⟩

end Hands

/-! ## The parts of a commit -/

theorem publish_run (channel : Channel) (payload : Text) (state : Publishing β) :
    (publish operations channel payload).run state =
      match operations.publish state.bus channel payload with
      | (bus, .ok _) =>
          (.ok true, ⟨{ state.stats with published := state.stats.published + 1 }, bus, state.logs⟩)
      | (bus, .error fault) =>
          if fault.isOrdinary then
            (.ok false,
              ⟨{ state.stats with publishFailures := state.stats.publishFailures + 1 }, bus,
                state.logs ++ [entry component .error "bus_publish_failed"
                  ([("channel", .text channel.name)] ++ errorFields fault ++
                    [("bus_unavailable", .ofBool fault.isBusUnavailable)])]⟩)
          else
            (.error fault, { state with bus := bus }) := by
  change ((match (operations.publish state.bus channel payload).2 with
    | .ok _ => do
        count fun stats => { stats with published := stats.published + 1 }
        pure true
    | .error fault =>
        if fault.isOrdinary then do
          count fun stats => { stats with publishFailures := stats.publishFailures + 1 }
          log .error "bus_publish_failed" ([("channel", .text channel.name)] ++ errorFields fault ++
            [("bus_unavailable", .ofBool fault.isBusUnavailable)])
          pure false
        else throw fault : PublishM β Bool).run
      { state with bus := (operations.publish state.bus channel payload).1 }) = _
  rcases operations.publish state.bus channel payload with ⟨bus, fault | _⟩
  · dsimp only
    split <;> rfl
  · rfl

theorem publish_hands (ho : operations.RaisesOrdinary) (channel : Channel) (payload : Text) :
    Hands operations (publish operations channel payload) ⟨[(channel, payload)], none⟩ := by
  intro state
  rw [publish_run]
  rcases h : operations.publish state.bus channel payload with ⟨bus, fault | _⟩
  · have hord : fault.isOrdinary = true := ho state.bus channel payload fault (by rw [h])
    simp [hord, h]
  · simp [h]

theorem publishBlock_hands (ho : operations.RaisesOrdinary) {block : Value}
    (hb : block.RendersOrdinarily) :
    Hands operations (publishBlock operations block) ⟨blockPublications block, none⟩ := by
  unfold publishBlock blockPublications
  cases h : encodeBlock block with
  | error fault =>
      have hord : fault.isOrdinary = true := encodeBlock_ordinary hb h
      simp only [hord, ↓reduceIte]
      exact (Hands.count _).bind fun _ => (Hands.log _ _ _).bind fun _ => .pure _
  | ok message =>
      obtain ⟨payload, hp⟩ := encodeBlock_text h
      simp only [hp]
      exact (publish_hands ho _ _).bind fun _ => .pure _

theorem publishBlock_raises {block : Value} {error : Raised}
    (hcell : block.slot.cell? block.heap = some (.foreign (.raises error)))
    (herr : error.isOrdinary = false) :
    Hands operations (publishBlock operations block) ⟨[], some (.raised error)⟩ := by
  unfold publishBlock
  have hord : (Fault.raised error).isOrdinary = false := herr
  simp only [encodeBlock_raises hcell, hord, Bool.false_eq_true, ↓reduceIte]
  exact .throw _

theorem encodeEvent_eq (txid notification : Value) :
    match eventText txid notification with
    | .ok payload => encodeEvent txid notification = .ok (.ok payload)
    | .error (.encoding error) =>
        ∃ contract, encodeEvent txid notification = .ok (.error (contract, error))
    | .error fault => encodeEvent txid notification = .error fault := by
  unfold eventText encodeEvent
  cases hp : notificationParts notification with
  | error fault =>
      have := (notificationParts_error hp).1
      cases fault <;> simp_all [bind, Except.bind, Fault.isEncoding]
  | ok parts =>
      obtain ⟨contract, state⟩ := parts
      simp only [bind, Except.bind]
      cases hm : encodeNotification contract txid state with
      | error fault => cases fault <;> simp [throw, throwThe, MonadExceptOf.throw, pure, Except.pure]
      | ok message =>
          obtain ⟨payload, ht⟩ := encodeNotification_text hm
          simp [ht, pure, Except.pure]

theorem publishEvent_hands (ho : operations.RaisesOrdinary) (txid notification : Value) :
    Hands operations (publishEvent operations txid notification)
      (.ofText (eventText txid notification)) := by
  have heq := encodeEvent_eq txid notification
  unfold publishEvent
  cases ht : eventText txid notification with
  | ok payload =>
      rw [ht] at heq
      exact .lift_ok heq (publish_hands ho _ _)
  | error fault =>
      rw [ht] at heq
      cases fault with
      | encoding error =>
          obtain ⟨contract, heq⟩ := heq
          exact .lift_ok heq
            ((Hands.count _).bind fun _ => (Hands.log _ _ _).bind fun _ => .pure _)
      | _ => exact .lift_error heq

theorem publishEvents_hands (ho : operations.RaisesOrdinary) (txid : Value)
    (notifications : List Value) (events : Nat) :
    Hands operations (publishEvents operations txid notifications events)
      (.ofTexts (notifications.map (eventText txid))) := by
  induction notifications generalizing events with
  | nil => exact .pure _
  | cons notification rest ih =>
      unfold publishEvents
      exact (publishEvent_hands ho txid notification).bind fun _ => ih _

theorem publishRecord_hands (ho : operations.RaisesOrdinary) (value : Value) (events : Nat) :
    Hands operations (publishRecord operations value events) (.ofTexts (recordTexts value)) := by
  unfold publishRecord recordTexts
  cases hr : value.record "faulted" with
  | error fault =>
      simp only [Course.ofTexts_single, Course.ofText_error (record_error hr).1]
      exact .lift_error rfl
  | ok record =>
      refine .lift_ok rfl ?_
      dsimp only
      cases hf : record.faulted with
      | error fault =>
          simp only [Course.ofTexts_single, Course.ofText_error (faulted_error hf).1]
          exact .lift_error rfl
      | ok faulted =>
          refine .lift_ok rfl ?_
          cases faulted with
          | true =>
              simp only [↓reduceIte]
              refine (Hands.count _).bind fun _ => ?_
              cases hi : record.notifications.items with
              | error fault => exact .lift_error (length_error hi)
              | ok notifications =>
                  exact .lift_ok (items_length hi) ((Hands.log _ _ _).bind fun _ => .pure _)
          | false =>
              simp only [Bool.false_eq_true, ↓reduceIte]
              cases hi : record.notifications.items with
              | error fault =>
                  simp only [Course.ofTexts_single, Course.ofText_error (items_error hi).1]
                  exact .lift_error rfl
              | ok notifications => exact .lift_ok rfl (publishEvents_hands ho _ _ _)

theorem publishRecords_hands (ho : operations.RaisesOrdinary) (records : List Value)
    (events : Nat) :
    Hands operations (publishRecords operations records events)
      (.ofTexts (records.flatMap recordTexts)) := by
  induction records generalizing events with
  | nil => exact .pure _
  | cons record rest ih =>
      unfold publishRecords
      rw [List.flatMap_cons, Course.ofTexts_append]
      exact (publishRecord_hands ho record events).bind fun _ => ih _

theorem publishCommit_hands (ho : operations.RaisesOrdinary) {block : Value}
    (hb : block.RendersOrdinarily) (records : Value) :
    Hands operations (publishCommit operations block records)
      (Course.andThen ⟨blockPublications block, none⟩ (.ofTexts (commitTexts records))) := by
  unfold publishCommit commitTexts
  refine (publishBlock_hands ho hb).bind fun hash => ?_
  cases hi : records.items with
  | error fault =>
      simp only [Course.ofTexts_single, Course.ofText_error (items_error hi).1]
      exact .lift_error rfl
  | ok items =>
      refine .lift_ok rfl ?_
      rw [← Course.andThen_silent (.ofTexts _)]
      exact (publishRecords_hands ho items 0).bind fun _ => .lift_ok (items_length hi) (.log _ _ _)

/-! ## A whole commit -/

theorem onCommit_ok (ho : operations.RaisesOrdinary) {block : Value}
    (hb : block.RendersOrdinarily) (records : Value) (state : Publishing β) :
    (onCommit operations block records state).1 = .ok () ∧
      (onCommit operations block records state).2.bus =
        operations.replay state.bus
          (blockPublications block ++ (Course.ofTexts (commitTexts records)).publications) := by
  obtain ⟨hbus, hend⟩ := publishCommit_hands ho hb records
    { state with stats := { state.stats with commits := state.stats.commits + 1 } }
  have ending := Course.ofTexts_ending (commitTexts records)
  unfold onCommit
  dsimp only
  split
  · rename_i final hrun
    rw [hrun] at hbus
    exact ⟨rfl, hbus⟩
  · rename_i fault final hrun
    rw [hrun] at hbus hend
    have hord : fault.isOrdinary = true := by
      simp only [Course.andThen_on] at hend
      cases hc : (Course.ofTexts (commitTexts records)).ending with
      | none => simp [hc] at hend
      | some other =>
          simp only [hc] at hend ending
          cases hend
          exact commitTexts_ordinary ending.1
    rw [if_pos hord]
    exact ⟨rfl, hbus⟩

theorem onCommit_raises {block : Value} {error : Raised}
    (hcell : block.slot.cell? block.heap = some (.foreign (.raises error)))
    (herr : error.isOrdinary = false) (records : Value) (state : Publishing β) :
    (onCommit operations block records state).1 = .error (.raised error) ∧
      (onCommit operations block records state).2.bus = state.bus := by
  have hands : Hands operations (publishCommit operations block records)
      ⟨[], some (.raised error)⟩ := (publishBlock_raises hcell herr).bind_stop
  obtain ⟨hbus, hend⟩ := hands
    { state with stats := { state.stats with commits := state.stats.commits + 1 } }
  have hord : ¬ (Fault.raised error).isOrdinary = true := Bool.eq_false_iff.mp herr
  unfold onCommit
  dsimp only
  split
  · rename_i final hrun
    rw [hrun] at hend
    cases hend
  · rename_i fault final hrun
    rw [hrun] at hbus hend
    cases hend
    rw [if_neg hord]
    exact ⟨rfl, hbus⟩

structure Clean (records : Value) : Prop where
  readable : ∃ items, records.items = .ok items ∧ ∀ record ∈ items, record.ReadableRecord
  refused : ∀ event ∈ announcements records, ∀ fault,
    eventText event.1 event.2 = .error fault → ∃ error, fault = .encoding error

theorem Clean.publications {records : Value} (h : Clean records) :
    (Course.ofTexts (commitTexts records)).publications =
      (announcements records).filterMap eventPublication? := by
  obtain ⟨items, hi, hread⟩ := h.readable
  have proceeds : ∀ text ∈ commitTexts records, Course.proceeds text = true := by
    intro text ht
    rw [commitTexts_readable hi hread] at ht
    obtain ⟨event, he, rfl⟩ := List.mem_map.mp ht
    cases htext : eventText event.1 event.2 with
    | ok payload => rfl
    | error fault =>
        obtain ⟨error, rfl⟩ := h.refused event he fault htext
        rfl
  rw [Course.ofTexts_publications, List.takeWhile_eq_self_iff.mpr proceeds,
    commitTexts_publications]

theorem renders_or_raises (block : Value) :
    block.RendersOrdinarily ∨ ∃ error,
      block.slot.cell? block.heap = some (.foreign (.raises error)) ∧ error.isOrdinary = false := by
  by_cases hb : block.RendersOrdinarily
  · exact .inl hb
  · exact .inr (by simpa [Value.RendersOrdinarily] using hb)

theorem onCommit_replays (ho : operations.RaisesOrdinary) (block records : Value)
    (state : Publishing β) :
    ∃ trace, (onCommit operations block records state).2.bus = operations.replay state.bus trace ∧
      trace <+: idealTrace block records ∧
      (block.RendersOrdinarily → Clean records → trace = idealTrace block records) := by
  rcases renders_or_raises block with hb | ⟨error, hcell, herr⟩
  · refine ⟨_, (onCommit_ok ho hb records state).2, ?_, ?_⟩
    · rw [idealTrace, ← commitTexts_publications]
      exact (List.prefix_append_right_inj _).mpr (Course.ofTexts_prefix _)
    · intro _ clean
      rw [clean.publications, idealTrace]
  · refine ⟨[], (onCommit_raises hcell herr records state).2, List.nil_prefix, fun hb => ?_⟩
    have ordinary := hb error hcell
    rw [herr] at ordinary
    cases ordinary

/-- A commit ends normally unless the block itself raises what no handler catches. What it asks of
the bus is a prefix of the ideal trace, and all of it if the records are clean. -/
theorem onCommit_trace (ho : operations.RaisesOrdinary) (block records : Value)
    (state : Publishing (Recorded β)) :
    ((onCommit operations.recording block records state).1 = .ok () ↔ block.RendersOrdinarily) ∧
      ∃ trace,
        (onCommit operations.recording block records state).2.bus.asked =
          state.bus.asked ++ trace ∧
        trace <+: idealTrace block records ∧
        (block.RendersOrdinarily → Clean records → trace = idealTrace block records) := by
  obtain ⟨trace, hbus, hprefix, hclean⟩ := onCommit_replays ho.recording block records state
  refine ⟨⟨fun hok => ?_, fun hb => (onCommit_ok ho.recording hb records state).1⟩,
    trace, ?_, hprefix, hclean⟩
  · rcases renders_or_raises block with hb | ⟨error, hcell, herr⟩
    · exact hb
    · rw [(onCommit_raises hcell herr records state).1] at hok
      cases hok
  · rw [hbus, BusOperations.recording_replay_asked]

def shortCommit : Heap :=
  #[.dict [(.text "hash", .text "0x01")], .list [], .notification (.text "0xCC") (.object 1),
    .list [.object 2], .record (.text "0xT1") (.state 1) (.object 3), .list [.object 4]]

theorem onCommit_trace_everyOther :
    BusOperations.everyOther.RaisesOrdinary ∧
      let final := onCommit BusOperations.everyOther.recording ⟨shortCommit, .object 0⟩
        ⟨shortCommit, .object 5⟩ ⟨.zero, ⟨0, [], []⟩, []⟩
      (final.1 = .ok () ↔ Value.RendersOrdinarily ⟨shortCommit, .object 0⟩) ∧
        ∃ trace, final.2.bus.asked = [] ++ trace ∧
          trace <+: idealTrace ⟨shortCommit, .object 0⟩ ⟨shortCommit, .object 5⟩ ∧
          (Value.RendersOrdinarily ⟨shortCommit, .object 0⟩ → Clean ⟨shortCommit, .object 5⟩ →
            trace = idealTrace ⟨shortCommit, .object 0⟩ ⟨shortCommit, .object 5⟩) :=
  ⟨BusOperations.everyOther_raisesOrdinary,
    onCommit_trace BusOperations.everyOther_raisesOrdinary _ _ _⟩

/-- A block that is interrupted while it renders itself lets the interrupt out. -/
theorem onCommit_interrupted :
    (onCommit BusOperations.everyOther.recording
        ⟨#[.foreign (.raises ⟨"KeyboardInterrupt", false, some "stop"⟩), .list []], .object 0⟩
        ⟨#[.foreign (.raises ⟨"KeyboardInterrupt", false, some "stop"⟩), .list []], .object 1⟩
        ⟨.zero, ⟨0, [], []⟩, []⟩).1 ≠ .ok () := by
  rw [(@onCommit_raises _ BusOperations.everyOther.recording _ _ rfl (by decide) _ _).1]
  intro h
  cases h

end Publisher

end LedgerFeed
