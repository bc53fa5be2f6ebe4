import Mathlib.Data.List.Induction
import LedgerFeed.Proofs.Ledger.Trace

namespace LedgerFeed

def CommitStats.messages (stats : CommitStats) : Nat :=
  stats.published + stats.publishFailures + stats.encodingFailures

def Value.isFaulted (value : Value) : Bool :=
  match value.record "faulted" with
  | .ok record => (record.faulted matches .ok true)
  | .error _ => false

def faultedRecords (records : Value) : Nat :=
  match records.items with
  | .ok items => items.countP Value.isFaulted
  | .error _ => 0

namespace Publisher

variable {β α γ : Type} {operations : BusOperations β}

/-! ## What a part of a commit counts -/

structure Agrees (state : Publishing (Recorded β)) : Prop where
  published : state.stats.published = state.bus.taken.length
  asked : state.stats.published + state.stats.publishFailures = state.bus.asked.length

structure Booked (state next : Publishing (Recorded β)) : Prop where
  commits : next.stats.commits = state.stats.commits
  agrees : Agrees state → Agrees next
  logs : state.logs <+: next.logs

theorem Booked.refl (state : Publishing (Recorded β)) : Booked state state :=
  ⟨rfl, id, List.prefix_rfl⟩

theorem Booked.trans {state middle next : Publishing (Recorded β)} (h : Booked state middle)
    (h' : Booked middle next) : Booked state next :=
  ⟨h'.commits.trans h.commits, fun agrees => h'.agrees (h.agrees agrees), h.logs.trans h'.logs⟩

structure Grown (state next : Publishing (Recorded β)) (messages faulted : Nat) : Prop where
  messages : next.stats.messages = state.stats.messages + messages
  faulted : next.stats.faultedRecords = state.stats.faultedRecords + faulted

theorem Grown.trans {state middle next : Publishing (Recorded β)} {messages faulted more others : Nat}
    (h : Grown state middle messages faulted) (h' : Grown middle next more others) :
    Grown state next (messages + more) (faulted + others) :=
  ⟨by rw [h'.messages, h.messages, Nat.add_assoc], by rw [h'.faulted, h.faulted, Nat.add_assoc]⟩

def Counts (m : PublishM (Recorded β) α) (messages faulted : Nat) : Prop :=
  ∀ state, Booked state (m.run state).2 ∧
    ∀ a, (m.run state).1 = .ok a → Grown state (m.run state).2 messages faulted

namespace Counts

variable {messages faulted more others : Nat}

theorem of_eq {m : PublishM (Recorded β) α} (h : Counts m messages faulted)
    (same : messages = more) (alike : faulted = others) : Counts m more others :=
  same ▸ alike ▸ h

theorem bind {m : PublishM (Recorded β) α} {f : α → PublishM (Recorded β) γ}
    (first : Counts m messages faulted) (second : ∀ a, Counts (f a) more others) :
    Counts (m >>= f) (messages + more) (faulted + others) := by
  intro state
  obtain ⟨booked, grown⟩ := first state
  rw [run_bind]
  rcases run : m.run state with ⟨fault | a, next⟩
  · rw [run] at booked
    exact ⟨booked, fun b ended => nomatch ended⟩
  · rw [run] at booked grown
    obtain ⟨later, grows⟩ := second a next
    exact ⟨booked.trans later, fun b ended => (grown a rfl).trans (grows b ended)⟩

theorem pure (a : α) : Counts (Pure.pure a : PublishM (Recorded β) α) 0 0 :=
  fun state => ⟨.refl state, fun _ _ => ⟨rfl, rfl⟩⟩

theorem throw (fault : Fault) (messages faulted : Nat) :
    Counts (MonadExcept.throw fault : PublishM (Recorded β) α) messages faulted :=
  fun state => ⟨.refl state, fun _ ended => nomatch ended⟩

theorem lift_ok {x : Except Fault α} {a : α} {f : α → PublishM (Recorded β) γ} (h : x = .ok a)
    (counts : Counts (f a) messages faulted) : Counts (liftM x >>= f) messages faulted := by
  subst h
  exact counts

theorem lift_error {x : Except Fault α} {fault : Fault} {f : α → PublishM (Recorded β) γ}
    (h : x = .error fault) (messages faulted : Nat) :
    Counts (liftM x >>= f) messages faulted := by
  subst h
  exact fun state => ⟨.refl state, fun _ ended => nomatch ended⟩

theorem log (level : Level) (event : String) (fields : List (String × Value)) :
    Counts (Publisher.log (β := Recorded β) level event fields) 0 0 :=
  fun _ => ⟨⟨rfl, fun agrees => ⟨agrees.published, agrees.asked⟩, List.prefix_append _ _⟩,
    fun _ _ => ⟨rfl, rfl⟩⟩

end Counts

/-! ## The parts of a commit -/

theorem publish_counts (ho : operations.RaisesOrdinary) (channel : Channel) (payload : Text) :
    Counts (publish operations.recording channel payload) 1 0 := by
  intro state
  rw [publish_run]
  cases answer : operations.publish state.bus.bus channel payload with
  | mk bus outcome =>
      cases outcome with
      | error fault =>
          have ordinary : fault.isOrdinary = true :=
            ho state.bus.bus channel payload fault (congrArg Prod.snd answer)
          simp only [BusOperations.recording, answer, ordinary, ↓reduceIte, List.append_nil]
          refine ⟨⟨rfl, fun agrees => ⟨agrees.published, ?_⟩, List.prefix_append _ _⟩,
            fun _ _ => ⟨?_, rfl⟩⟩
          · simpa [← Nat.add_assoc] using agrees.asked
          · simp only [CommitStats.messages]
            omega
      | ok taken =>
          simp only [BusOperations.recording, answer]
          refine ⟨⟨rfl, fun agrees => ⟨?_, ?_⟩, List.prefix_rfl⟩, fun _ _ => ⟨?_, rfl⟩⟩
          · simpa using agrees.published
          · have asked := agrees.asked
            simp only [List.length_append, List.length_singleton]
            omega
          · simp only [CommitStats.messages]
            omega

theorem unencoded_counts :
    Counts (count fun stats => { stats with encodingFailures := stats.encodingFailures + 1 } :
      PublishM (Recorded β) Unit) 1 0 :=
  fun _ => ⟨⟨rfl, fun agrees => ⟨agrees.published, agrees.asked⟩, List.prefix_rfl⟩,
    fun _ _ => ⟨rfl, rfl⟩⟩

theorem faulted_counts :
    Counts (count fun stats => { stats with faultedRecords := stats.faultedRecords + 1 } :
      PublishM (Recorded β) Unit) 0 1 :=
  fun _ => ⟨⟨rfl, fun agrees => ⟨agrees.published, agrees.asked⟩, List.prefix_rfl⟩,
    fun _ _ => ⟨rfl, rfl⟩⟩

theorem publishBlock_counts (ho : operations.RaisesOrdinary) (block : Value) :
    Counts (publishBlock operations.recording block) 1 0 := by
  unfold publishBlock
  cases encoded : encodeBlock block with
  | error fault =>
      by_cases ordinary : fault.isOrdinary = true
      · simp only [ordinary, ↓reduceIte]
        exact unencoded_counts.bind fun _ => (Counts.log _ _ _).bind fun _ => .pure _
      · simp only [ordinary, Bool.false_eq_true, ↓reduceIte]
        exact .throw fault 1 0
  | ok message =>
      obtain ⟨payload, text⟩ := encodeBlock_text encoded
      simp only [text]
      exact (publish_counts ho _ _).bind fun _ => .pure _

theorem publishEvent_counts (ho : operations.RaisesOrdinary) (txid notification : Value) :
    Counts (publishEvent operations.recording txid notification) 1 0 := by
  unfold publishEvent
  cases encoded : encodeEvent txid notification with
  | error fault => exact .lift_error rfl 1 0
  | ok result =>
      refine .lift_ok rfl ?_
      cases result with
      | ok payload => exact publish_counts ho _ _
      | error refusal =>
          exact unencoded_counts.bind fun _ => (Counts.log _ _ _).bind fun _ => .pure _

theorem publishEvents_counts (ho : operations.RaisesOrdinary) (txid : Value)
    (notifications : List Value) (events : Nat) :
    Counts (publishEvents operations.recording txid notifications events) notifications.length 0 := by
  induction notifications generalizing events with
  | nil => exact .pure events
  | cons notification rest ih =>
      unfold publishEvents
      exact ((publishEvent_counts ho txid notification).bind fun _ => ih _).of_eq
        (Nat.add_comm 1 rest.length) rfl

theorem publishRecord_counts (ho : operations.RaisesOrdinary) (value : Value) (events : Nat) :
    Counts (publishRecord operations.recording value events) (healthyEvents value).length
      (if value.isFaulted then 1 else 0) := by
  unfold publishRecord
  cases read : value.record "faulted" with
  | error fault => exact .lift_error rfl _ _
  | ok record =>
      refine .lift_ok rfl ?_
      cases state : record.faulted with
      | error fault => exact .lift_error rfl _ _
      | ok faulted =>
          refine .lift_ok rfl ?_
          cases faulted with
          | true =>
              have unheard : healthyEvents value = [] := by simp [healthyEvents, read, state]
              have one : value.isFaulted = true := by simp [Value.isFaulted, read, state]
              rw [unheard, one]
              simp only [↓reduceIte]
              refine (faulted_counts.bind fun _ => (?_ : Counts _ 0 0)).of_eq rfl rfl
              cases counted : record.notifications.length with
              | error fault => exact .lift_error rfl 0 0
              | ok notifications => exact .lift_ok rfl ((Counts.log _ _ _).bind fun _ => .pure _)
          | false =>
              have none : value.isFaulted = false := by simp [Value.isFaulted, read, state]
              simp only [none, Bool.false_eq_true, ↓reduceIte]
              cases items : record.notifications.items with
              | error fault => exact .lift_error rfl _ _
              | ok notifications =>
                  have heard : (healthyEvents value).length = notifications.length := by
                    simp [healthyEvents, read, state, items]
                  rw [heard]
                  exact .lift_ok rfl (publishEvents_counts ho _ _ _)

theorem publishRecords_counts (ho : operations.RaisesOrdinary) (records : List Value)
    (events : Nat) :
    Counts (publishRecords operations.recording records events)
      (records.flatMap healthyEvents).length (records.countP Value.isFaulted) := by
  induction records generalizing events with
  | nil => exact .pure events
  | cons record rest ih =>
      unfold publishRecords
      rw [List.flatMap_cons, List.length_append, List.countP_cons, Nat.add_comm (rest.countP _)]
      exact (publishRecord_counts ho record events).bind ih

theorem publishCommit_counts (ho : operations.RaisesOrdinary) (block records : Value) :
    Counts (publishCommit operations.recording block records)
      (1 + (announcements records).length) (faultedRecords records) := by
  unfold publishCommit announcements faultedRecords
  cases items : records.items with
  | error fault =>
      exact ((publishBlock_counts ho block).bind fun _ => .lift_error rfl 0 0).of_eq rfl rfl
  | ok values =>
      refine ((publishBlock_counts ho block).bind fun hash => .lift_ok rfl
        ((publishRecords_counts ho values 0).bind fun events =>
          .lift_ok (items_length items) (.log _ _ _))).of_eq rfl ?_
      rw [Nat.zero_add, Nat.add_zero]

/-! ## Records that can be read -/

def Readable (records : Value) : Prop :=
  ∃ items, records.items = .ok items ∧ ∀ record ∈ items, record.ReadableRecord

theorem readable_of_proceeds {value : Value}
    (proceeds : ∀ text ∈ recordTexts value, Course.proceeds text = true) : value.ReadableRecord := by
  unfold recordTexts at proceeds
  cases read : value.record "faulted" with
  | error fault =>
      simp [read, (record_error read).1] at proceeds
  | ok record =>
      simp only [read] at proceeds
      cases state : record.faulted with
      | error fault => simp [state, (faulted_error state).1] at proceeds
      | ok faulted =>
          have known : ∃ n, record.state.slot.int? = some n := by
            unfold Record.faulted at state
            split at state
            · exact ⟨_, ‹_›⟩
            · cases state
          cases items : record.notifications.items with
          | ok notifications => exact ⟨record, read, known, notifications, items⟩
          | error fault =>
              cases faulted with
              | true => simp [state, items, Fault.isEncoding] at proceeds
              | false => simp [state, items, (items_error items).1] at proceeds

theorem readable_of_run (ho : operations.RaisesOrdinary) {block records : Value}
    {state next : Publishing β}
    (run : (publishCommit operations block records).run state = (.ok (), next)) :
    Readable records := by
  have renders : block.RendersOrdinarily := by
    refine (renders_or_raises block).resolve_right fun ⟨error, cell, raised⟩ => ?_
    have hands : Hands operations (publishCommit operations block records)
        ⟨[], some (.raised error)⟩ := (publishBlock_raises cell raised).bind_stop
    obtain ⟨-, ends⟩ := hands state
    rw [run] at ends
    cases ends
  obtain ⟨-, ends⟩ := publishCommit_hands ho renders records state
  have proceeds := Course.ofTexts_ending (commitTexts records)
  rw [run, Course.andThen_on] at ends
  cases ending : (Course.ofTexts (commitTexts records)).ending with
  | some fault =>
      rw [ending] at ends
      cases ends
  | none =>
      rw [ending] at proceeds
      unfold commitTexts at proceeds
      cases items : records.items with
      | error fault => simp [items, (items_error items).1] at proceeds
      | ok values =>
          simp only [items] at proceeds
          refine ⟨values, items, fun record listed => readable_of_proceeds fun text has => ?_⟩
          exact proceeds text (List.mem_flatMap.mpr ⟨record, listed, has⟩)

/-! ## Whole commits -/

def failedEvent : String := "commit_publish_failed"

/-- A commit counts itself and keeps the totals in agreement with the bus. Unless it fails, it has
accounted for its messages and its faulted records, all of which could be read. -/
structure Accounted (block records : Value) (state final : Publishing (Recorded β))
    (outcome : Except Fault Unit) : Prop where
  commits : final.stats.commits = state.stats.commits + 1
  agrees : Agrees state → Agrees final
  logs : ∃ logged, final.logs = state.logs ++ logged ∧
    (outcome = .ok () → (∀ entry ∈ logged, entry.event ≠ failedEvent) →
      Readable records ∧
        Grown state final (1 + (announcements records).length) (faultedRecords records))

theorem onCommit_accounted (ho : operations.RaisesOrdinary) (block records : Value)
    (state : Publishing (Recorded β)) :
    Accounted block records state (onCommit operations.recording block records state).2
      (onCommit operations.recording block records state).1 := by
  obtain ⟨⟨commits, agrees, logged, logs⟩, grown⟩ := publishCommit_counts ho block records
    { state with stats := { state.stats with commits := state.stats.commits + 1 } }
  unfold onCommit
  dsimp only
  split
  · rename_i final run
    have readable := readable_of_run ho.recording run
    rw [run] at commits agrees logs grown
    obtain ⟨messages, faulted⟩ := grown () rfl
    exact ⟨commits, fun h => agrees ⟨h.published, h.asked⟩, logged, logs.symm,
      fun _ _ => ⟨readable, messages, faulted⟩⟩
  · rename_i fault final run
    rw [run] at commits agrees logs
    have kept : Agrees state → Agrees final := fun h => agrees ⟨h.published, h.asked⟩
    by_cases ordinary : fault.isOrdinary = true
    · rw [if_pos ordinary]
      refine ⟨commits, fun h => ⟨(kept h).published, (kept h).asked⟩,
        logged ++ [entry component .error failedEvent (errorFields fault)], ?_, ?_⟩
      · rw [← List.append_assoc, logs]
        rfl
      · intro _ silent
        exact absurd rfl (silent _ (List.mem_append_right _ (List.mem_singleton_self _)))
    · rw [if_neg ordinary]
      exact ⟨commits, kept, logged, logs.symm, fun ended => nomatch ended⟩

def afterCommits (operations : BusOperations β) (bus : β) (commits : List (Value × Value)) :
    Publishing (Recorded β) :=
  commits.foldl (fun state commit => (onCommit operations.recording commit.1 commit.2 state).2)
    ⟨.zero, ⟨bus, [], []⟩, []⟩

theorem afterCommits_snoc (bus : β) (commits : List (Value × Value)) (block records : Value) :
    afterCommits operations bus (commits ++ [(block, records)]) =
      (onCommit operations.recording block records (afterCommits operations bus commits)).2 :=
  List.foldl_concat ..

theorem afterCommits_agrees (ho : operations.RaisesOrdinary) (bus : β)
    (commits : List (Value × Value)) :
    (afterCommits operations bus commits).stats.commits = commits.length ∧
      Agrees (afterCommits operations bus commits) := by
  induction commits using List.reverseRecOn with
  | nil => exact ⟨rfl, rfl, rfl⟩
  | append_singleton commits commit ih =>
      obtain ⟨counted, agrees⟩ := ih
      have accounted := onCommit_accounted ho commit.1 commit.2 (afterCommits operations bus commits)
      rw [afterCommits_snoc, List.length_append, List.length_singleton, ← counted]
      exact ⟨accounted.commits, accounted.agrees agrees⟩

/-- After any commits the publisher has counted the commits, and its publications by what the bus
answered. The next commit, if it returns without logging that it failed, was given records that can
all be read, and accounts once for the block, for each notification of a record that did not fault
and for each record that did. -/
theorem commits_accounted (ho : operations.RaisesOrdinary) (bus : β)
    (earlier : List (Value × Value)) (block records : Value) :
    let state := afterCommits operations bus earlier
    let (outcome, final) := onCommit operations.recording block records state
    (state.stats.commits = earlier.length ∧
      state.stats.published = state.bus.taken.length ∧
      state.bus.taken.length + state.stats.publishFailures = state.bus.asked.length) ∧
    ∃ logged, final.logs = state.logs ++ logged ∧
      (outcome = .ok () → (∀ entry ∈ logged, entry.event ≠ "commit_publish_failed") →
        Readable records ∧
        final.stats.messages = state.stats.messages + (1 + (announcements records).length) ∧
        final.stats.faultedRecords = state.stats.faultedRecords + faultedRecords records) := by
  obtain ⟨counted, published, asked⟩ := afterCommits_agrees ho bus earlier
  obtain ⟨-, -, logged, logs, accounts⟩ :=
    onCommit_accounted ho block records (afterCommits operations bus earlier)
  refine ⟨⟨counted, published, published ▸ asked⟩, logged, logs, fun returned silent => ?_⟩
  obtain ⟨readable, grown⟩ := accounts returned silent
  exact ⟨readable, grown.messages, grown.faulted⟩

def interruptedCommit : Heap :=
  #[.foreign (.raises ⟨"KeyboardInterrupt", false, some "stop"⟩), .list []]

def refusedCommit : Heap :=
  #[.list [], .notification (.text "") (.object 0), .list [.object 1],
    .record (.text "0xT1") (.state 1) (.object 2), .record (.text "0xT2") (.state 2) (.object 2),
    .list [.object 3, .object 4]]

theorem commits_accounted_refused :
    BusOperations.everyOther.RaisesOrdinary ∧
      let state := afterCommits BusOperations.everyOther 0
        [(⟨interruptedCommit, .object 0⟩, ⟨interruptedCommit, .object 1⟩)]
      let (outcome, final) := onCommit BusOperations.everyOther.recording
        ⟨refusedCommit, .object 0⟩ ⟨refusedCommit, .object 5⟩ state
      state.stats.commits = 1 ∧ outcome = .ok () ∧
        (∀ entry ∈ final.logs, entry.event ≠ "commit_publish_failed") ∧
        Readable ⟨refusedCommit, .object 5⟩ ∧ final.stats.messages = 2 ∧
        final.stats.faultedRecords = 1 := by
  obtain ⟨⟨counted, -, -⟩, logged, logs, accounts⟩ := commits_accounted
    BusOperations.everyOther_raisesOrdinary 0
    [(⟨interruptedCommit, .object 0⟩, ⟨interruptedCommit, .object 1⟩)]
    ⟨refusedCommit, .object 0⟩ ⟨refusedCommit, .object 5⟩
  have silent : ∀ entry ∈ (onCommit BusOperations.everyOther.recording ⟨refusedCommit, .object 0⟩
      ⟨refusedCommit, .object 5⟩ (afterCommits BusOperations.everyOther 0
        [(⟨interruptedCommit, .object 0⟩, ⟨interruptedCommit, .object 1⟩)])).2.logs,
      entry.event ≠ "commit_publish_failed" := by decide
  obtain ⟨readable, messages, faulted⟩ := accounts rfl fun entry listed =>
    silent entry (logs ▸ List.mem_append_right _ listed)
  exact ⟨BusOperations.everyOther_raisesOrdinary, counted, rfl, silent, readable, messages, faulted⟩

/-- An interrupt passes the handlers by: the commit says nothing of a failure, and its block is in
none of the totals. -/
theorem interrupt_unaccounted :
    let state := afterCommits BusOperations.everyOther 0 []
    let final := (onCommit BusOperations.everyOther.recording ⟨interruptedCommit, .object 0⟩
      ⟨interruptedCommit, .object 1⟩ state).2
    (∀ entry ∈ final.logs, entry.event ≠ "commit_publish_failed") ∧
      final.stats.messages ≠ state.stats.messages +
        (1 + (announcements ⟨interruptedCommit, .object 1⟩).length) := by
  decide

end Publisher

end LedgerFeed
