import LedgerFeed.Proofs.Bus.Backlog

/-!
# Listeners of a bus

Messages are published, listeners come and go, event loops put postings into queues, listeners take
what is in their queues, and the bus is closed, in any order. What a listener has yielded, followed
by the messages in its backlog, is what has been published on its channels since it began
(`yielded_in_order`). So a listener that comes to its end has yielded all of it.
-/

namespace LedgerFeed

abbrev BusMessage := Value × Value

def Posting.message? : Posting → Option BusMessage
  | .message channel payload => some (channel, payload)
  | .ended => none

inductive Stage
  | listening
  | ended
  | left

structure Listener where
  serial : Nat
  channels : List Value
  since : Nat
  yielded : List BusMessage
  stage : Stage
  loopOpen : Bool

def Listener.wants (listener : Listener) (message : BusMessage) : Bool :=
  listener.channels.any fun wanted => wanted.sameAs message.1

def Listener.due (listener : Listener) (published : List BusMessage) : List BusMessage :=
  (published.drop listener.since).filter listener.wants

def Listener.take (listener : Listener) (posting : Posting) : Listener :=
  match listener.stage, posting with
  | .listening, .message channel payload =>
      { listener with yielded := listener.yielded ++ [(channel, payload)] }
  | .listening, .ended => { listener with stage := .ended }
  | _, _ => listener

def Listener.leave (listener : Listener) : Listener :=
  match listener.stage with
  | .listening => { listener with stage := .left }
  | .ended | .left => listener

structure BusHistory where
  bus : MemoryBus
  published : List BusMessage
  listeners : List Listener

namespace BusHistory

def start : BusHistory := ⟨.empty, [], []⟩

def amend (history : BusHistory) (serial : Nat) (change : Listener → Listener) : BusHistory :=
  { history with
    listeners := history.listeners.map fun l => if l.serial = serial then change l else l }

def publish (history : BusHistory) (channel payload : Value) : BusHistory :=
  match history.bus.publish channel payload with
  | (bus, .ok _) =>
      { history with bus := bus, published := history.published ++ [(channel, payload)] }
  | (bus, .error _) => { history with bus := bus }

def listen (history : BusHistory) (channels : Value) : BusHistory :=
  let started := history.bus.listen channels true
  match MemoryBus.channelSet channels, started.result with
  | .ok wanted, .ok serial =>
      { history with
        bus := started.bus
        listeners := history.listeners ++
          [⟨serial, wanted.map channels.withSlot, history.published.length, [], .listening, true⟩] }
  | _, _ => { history with bus := started.bus }

def receive (history : BusHistory) (serial : Nat) : BusHistory :=
  match history.bus.receive serial with
  | (_, none) => history
  | (bus, some posting) =>
      let bus := match posting with
        | .message _ _ => bus
        | .ended => bus.discard serial
      { history with bus := bus }.amend serial (·.take posting)

def leave (history : BusHistory) (serial : Nat) : BusHistory :=
  { history with bus := history.bus.discard serial }.amend serial (·.leave)

def closeLoop (history : BusHistory) (serial : Nat) : BusHistory :=
  { history with bus := history.bus.update serial fun s => { s with reachable := false } }.amend
    serial fun l => { l with loopOpen := false }

inductive Act
  | publish (channel payload : Value)
  | listen (channels : Value)
  | deliver (serial : Nat)
  | receive (serial : Nat)
  | leave (serial : Nat)
  | closeLoop (serial : Nat)
  | close

def perform (history : BusHistory) : Act → BusHistory
  | .publish channel payload => history.publish channel payload
  | .listen channels => history.listen channels
  | .deliver serial => { history with bus := history.bus.deliverTo serial }
  | .receive serial => history.receive serial
  | .leave serial => history.leave serial
  | .closeLoop serial => history.closeLoop serial
  | .close => { history with bus := history.bus.close.1 }

def run (acts : List Act) : BusHistory := acts.foldl perform start

end BusHistory

/-! ## What the bus holds for a listener -/

/-- The bus has one subscription for the listener, with these messages and then the end marker, if
the bus is closed, for its backlog. -/
structure MemoryBus.Holds (bus : MemoryBus) (listener : Listener) (waiting : List BusMessage) :
    Prop where
  subscribed : ∃ s, bus.named listener.serial = [s] ∧ s.reachable = true ∧
    s.channels = listener.channels
  backlog : bus.backlog listener.serial =
    waiting.map (fun message => .message message.1 message.2) ++
      if bus.closed then [.ended] else []

namespace MemoryBus

variable {bus next : MemoryBus} {listener : Listener} {waiting : List BusMessage}

theorem Holds.frame (h : bus.Holds listener waiting)
    (named : next.named listener.serial = bus.named listener.serial)
    (posted : next.posted.filter (fun p => p.1 = listener.serial) =
      bus.posted.filter fun p => p.1 = listener.serial)
    (closed : next.closed = bus.closed) : next.Holds listener waiting where
  subscribed := named ▸ h.subscribed
  backlog := by
    rw [MemoryBus.backlog, named, posted, closed]
    exact h.backlog

theorem Holds.post (h : bus.Holds listener waiting) (opened : bus.closed = false)
    (channel payload : Value) :
    (bus.post channel payload).1.Holds listener
      (waiting ++ [(channel, payload)].filter listener.wants) := by
  obtain ⟨s, alone, reachable, channels⟩ := h.subscribed
  have wants : s.wants channel = listener.wants (channel, payload) := by
    rw [Subscription.wants, channels, Listener.wants]
  refine ⟨⟨s, post_named alone reachable channel payload, reachable, channels⟩, ?_⟩
  have stillOpen : (bus.post channel payload).1.closed = false := opened
  rw [post_backlog alone reachable, h.backlog, opened, stillOpen, wants, List.filter_cons]
  cases listener.wants (channel, payload) <;> simp

theorem Holds.deliverTo (h : bus.Holds listener waiting) (serial : Nat) :
    (bus.deliverTo serial).Holds listener waiting := by
  obtain ⟨s, alone, reachable, channels⟩ := h.subscribed
  obtain ⟨⟨queue, named⟩, same⟩ := deliverTo_backlog alone serial
  refine ⟨⟨_, named, reachable, channels⟩, ?_⟩
  rw [same, deliverTo_closed]
  exact h.backlog

theorem Holds.close (h : bus.Holds listener waiting) : bus.close.1.Holds listener waiting := by
  obtain ⟨s, alone, reachable, channels⟩ := h.subscribed
  refine ⟨⟨s, (close_named ..).trans alone, reachable, channels⟩, ?_⟩
  cases closed : bus.closed with
  | true =>
      have same : bus.close.1 = bus := by simp [MemoryBus.close, closed]
      rw [same]
      exact h.backlog
  | false =>
      have nowClosed : bus.close.1.closed = true := by simp [MemoryBus.close, closed]
      rw [close_backlog alone reachable closed, h.backlog, closed, nowClosed]
      simp

theorem Holds.receive_message (h : bus.Holds listener waiting) {channel payload : Value}
    (taken : bus.receive listener.serial = (next, some (.message channel payload))) :
    ∃ rest, waiting = (channel, payload) :: rest ∧ next.Holds listener rest := by
  obtain ⟨s, alone, reachable, channels⟩ := h.subscribed
  obtain ⟨⟨queue, named⟩, first⟩ := receive_backlog alone taken
  rw [h.backlog] at first
  cases waiting with
  | nil => split at first <;> cases first
  | cons message rest =>
      obtain ⟨same, others⟩ := List.cons.inj first
      cases same
      refine ⟨rest, rfl, ⟨_, named, reachable, channels⟩, ?_⟩
      rw [receive_closed taken]
      exact others.symm

theorem Holds.receive_ended (h : bus.Holds listener waiting)
    (taken : bus.receive listener.serial = (next, some .ended)) :
    waiting = [] ∧ bus.closed = true := by
  obtain ⟨s, alone, -⟩ := h.subscribed
  have first := (receive_backlog alone taken).2
  rw [h.backlog] at first
  cases waiting with
  | nil =>
      split at first
      · exact ⟨rfl, ‹_›⟩
      · cases first
  | cons message rest => cases (List.cons.inj first).1

structure Numbered (bus : MemoryBus) : Prop where
  subscribed : ∀ s ∈ bus.subscriptions, s.serial < bus.started
  posted : ∀ p ∈ bus.posted, p.1 < bus.started

namespace Numbered

theorem of_subset (h : bus.Numbered) (subscribed : ∀ s ∈ next.subscriptions,
    ∃ t ∈ bus.subscriptions, s.serial = t.serial)
    (posted : ∀ p ∈ next.posted, p ∈ bus.posted ∨ ∃ t ∈ bus.subscriptions, p.1 = t.serial)
    (started : next.started = bus.started) : next.Numbered where
  subscribed s hs := by
    obtain ⟨t, ht, same⟩ := subscribed s hs
    rw [started, same]
    exact h.subscribed t ht
  posted p hp := by
    rw [started]
    rcases posted p hp with hp | ⟨t, ht, same⟩
    · exact h.posted p hp
    · exact same ▸ h.subscribed t ht

theorem post (h : bus.Numbered) (channel payload : Value) :
    (bus.post channel payload).1.Numbered := by
  refine h.of_subset (fun s hs => ⟨s, (List.mem_filter.mp hs).1, rfl⟩) (fun p hp => ?_) rfl
  rcases List.mem_append.mp hp with hp | hp
  · exact .inl hp
  · obtain ⟨t, ht, rfl⟩ := List.mem_map.mp hp
    exact .inr ⟨t, (List.mem_filter.mp ht).1, rfl⟩

theorem update (h : bus.Numbered) (serial : Nat) {change : Subscription → Subscription}
    (kept : ∀ s, (change s).serial = s.serial) : (bus.update serial change).Numbered := by
  refine h.of_subset (fun s hs => ?_) (fun p hp => .inl hp) rfl
  obtain ⟨t, ht, rfl⟩ := List.mem_map.mp hs
  refine ⟨t, ht, ?_⟩
  split
  · exact kept t
  · rfl

theorem deliverTo (h : bus.Numbered) (serial : Nat) : (bus.deliverTo serial).Numbered := by
  unfold MemoryBus.deliverTo
  split
  · exact h
  · refine update ?_ serial fun _ => rfl
    exact h.of_subset (fun s hs => ⟨s, hs, rfl⟩) (fun p hp => .inl (List.mem_of_mem_eraseP hp)) rfl

theorem receive (h : bus.Numbered) {serial : Nat} {posting : Posting}
    (taken : bus.receive serial = (next, some posting)) : next.Numbered := by
  unfold MemoryBus.receive at taken
  split at taken <;> cases taken
  exact h.update serial fun _ => rfl

theorem discard (h : bus.Numbered) (serial : Nat) : (bus.discard serial).Numbered :=
  h.of_subset (fun s hs => ⟨s, (List.mem_filter.mp hs).1, rfl⟩) (fun _ hp => .inl hp) rfl

theorem close (h : bus.Numbered) : bus.close.1.Numbered := by
  unfold MemoryBus.close
  split
  · exact h
  · refine h.of_subset (fun s hs => ⟨s, hs, rfl⟩) (fun p hp => ?_) rfl
    rcases List.mem_append.mp hp with hp | hp
    · exact .inl hp
    · obtain ⟨t, ht, rfl⟩ := List.mem_map.mp hp
      exact .inr ⟨t, (List.mem_filter.mp ht).1, rfl⟩

theorem subscribe (h : bus.Numbered) (channels : List Value) (reachable : Bool) :
    (bus.subscribe channels reachable).1.Numbered where
  subscribed s hs := by
    rcases List.mem_append.mp hs with hs | hs
    · exact Nat.lt_succ_of_lt (h.subscribed s hs)
    · cases List.mem_singleton.mp hs
      exact Nat.lt_succ_self _
  posted p hp := Nat.lt_succ_of_lt (h.posted p hp)

theorem subscribe_holds (h : bus.Numbered) (opened : bus.closed = false)
    (serial : listener.serial = bus.started) {channels : List Value}
    (wanted : channels = listener.channels) :
    (bus.subscribe channels true).1.Holds listener [] := by
  have unused : bus.subscriptions.filter (fun s => s.serial = bus.started) = [] :=
    List.filter_eq_nil_iff.mpr fun s hs => by simpa using Nat.ne_of_lt (h.subscribed s hs)
  have unposted : bus.posted.filter (fun p => p.1 = bus.started) = [] :=
    List.filter_eq_nil_iff.mpr fun p hp => by simpa using Nat.ne_of_lt (h.posted p hp)
  have alone : (bus.subscribe channels true).1.named bus.started =
      [⟨bus.started, channels, true, []⟩] := by
    simp [MemoryBus.named, MemoryBus.subscribe, List.filter_append, unused]
  rw [← serial] at alone
  refine ⟨⟨_, alone, rfl, wanted⟩, ?_⟩
  rw [MemoryBus.backlog, alone, serial]
  simp [MemoryBus.subscribe, unposted, opened]

end Numbered

/-! ## What publishing and listening come to -/

theorem publish_cases (bus : MemoryBus) (channel payload : Value) :
    (∃ fault, bus.publish channel payload = (bus, .error fault)) ∨
      bus.closed = false ∧
        ∃ count, bus.publish channel payload = ((bus.post channel payload).1, .ok count) := by
  unfold publish
  split
  · exact .inl ⟨_, rfl⟩
  · rename_i opened
    split
    · exact .inl ⟨_, rfl⟩
    · exact .inr ⟨Bool.eq_false_iff.mpr opened, _, rfl⟩

theorem listen_cases (bus : MemoryBus) (channels : Value) (reachable : Bool) :
    ((bus.listen channels reachable).bus = bus ∧
        ∃ fault, (bus.listen channels reachable).result = .error fault) ∨
      bus.closed = false ∧ ∃ wanted, channelSet channels = .ok wanted ∧
        (bus.listen channels reachable).bus =
          (bus.subscribe (wanted.map channels.withSlot) reachable).1 ∧
        ((bus.listen channels reachable).result = .ok bus.started ∨
          ∃ fault, (bus.listen channels reachable).result = .error fault) := by
  unfold listen
  split
  · exact .inl ⟨rfl, _, rfl⟩
  · rename_i wanted found
    split
    · exact .inl ⟨rfl, _, rfl⟩
    · rename_i opened
      refine .inr ⟨Bool.eq_false_iff.mpr opened, wanted, found, ?_⟩
      dsimp only
      split
      · exact ⟨rfl, .inl rfl⟩
      · exact ⟨rfl, .inr ⟨_, rfl⟩⟩

theorem discard_named (bus : MemoryBus) {serial other : Nat} (h : serial ≠ other) :
    (bus.discard other).named serial = bus.named serial := by
  rw [named, discard, List.filter_filter]
  refine List.filter_congr fun s _ => ?_
  by_cases same : s.serial = serial
  · simp [same, h]
  · simp [same]

end MemoryBus

/-! ## Histories -/

theorem Listener.due_append {listener : Listener} {published : List BusMessage}
    (since : listener.since ≤ published.length) (message : BusMessage) :
    listener.due (published ++ [message]) =
      listener.due published ++ [message].filter listener.wants := by
  rw [Listener.due, List.drop_append_of_le_length since, List.filter_append, Listener.due]

theorem Listener.take_kept (listener : Listener) (posting : Posting) :
    (listener.take posting).serial = listener.serial ∧
      (listener.take posting).since = listener.since ∧
      (listener.take posting).loopOpen = listener.loopOpen := by
  unfold Listener.take
  split <;> exact ⟨rfl, rfl, rfl⟩

/-- What is due to a listener, by its stage. -/
inductive Listener.Served (listener : Listener) (bus : MemoryBus) (published : List BusMessage) :
    Prop
  | listening (stage : listener.stage = .listening) {waiting : List BusMessage}
      (held : bus.Holds listener waiting)
      (all : listener.yielded ++ waiting = listener.due published)
  | ended (stage : listener.stage = .ended) (closed : bus.closed = true)
      (all : listener.yielded = listener.due published)
  | left (stage : listener.stage = .left)

theorem Listener.Served.of_holds {listener : Listener} {bus next : MemoryBus}
    {published : List BusMessage} (h : listener.Served bus published)
    (holds : ∀ waiting, bus.Holds listener waiting → next.Holds listener waiting)
    (closed : bus.closed = true → next.closed = true) : listener.Served next published := by
  cases h with
  | listening stage held all => exact .listening stage (holds _ held) all
  | ended stage was all => exact .ended stage (closed was) all
  | left stage => exact .left stage

namespace BusHistory

structure Sound (history : BusHistory) : Prop where
  numbered : history.bus.Numbered
  listeners : ∀ listener ∈ history.listeners,
    listener.serial < history.bus.started ∧ listener.since ≤ history.published.length
  served : ∀ listener ∈ history.listeners, listener.loopOpen = true →
    listener.Served history.bus history.published

variable {history : BusHistory}

theorem Sound.publish (h : history.Sound) (channel payload : Value) :
    (history.publish channel payload).Sound := by
  unfold BusHistory.publish
  obtain ⟨fault, same⟩ | ⟨opened, count, posts⟩ := history.bus.publish_cases channel payload
  · rw [same]
    exact ⟨h.numbered, h.listeners, h.served⟩
  · rw [posts]
    refine ⟨h.numbered.post channel payload, fun l hl => ?_, fun l hl open_ => ?_⟩
    · obtain ⟨serial, since⟩ := h.listeners l hl
      exact ⟨serial, by simp only [List.length_append]; omega⟩
    · have due := l.due_append (h.listeners l hl).2 (channel, payload)
      cases h.served l hl open_ with
      | listening stage held all =>
          refine .listening stage (held.post opened channel payload) ?_
          rw [due, ← all, List.append_assoc]
      | ended stage closed => exact absurd (opened.symm.trans closed) Bool.false_ne_true
      | left stage => exact .left stage

theorem Sound.listen (h : history.Sound) (channels : Value) : (history.listen channels).Sound := by
  unfold BusHistory.listen
  dsimp only
  obtain ⟨same, fault, fails⟩ | ⟨opened, wanted, found, begins, outcome⟩ :=
    history.bus.listen_cases channels true
  · rw [same, fails]
    split
    · rename_i impossible
      cases impossible
    · exact ⟨h.numbered, h.listeners, h.served⟩
  · -- Who listens already has another number, so the new subscription is none of theirs.
    have earlier : Sound { history with
        bus := (history.bus.subscribe (wanted.map channels.withSlot) true).1 } := by
      refine ⟨h.numbered.subscribe _ _, fun l hl => ?_, fun l hl open_ => ?_⟩
      · exact ⟨Nat.lt_succ_of_lt (h.listeners l hl).1, (h.listeners l hl).2⟩
      · have apart := Nat.ne_of_lt (h.listeners l hl).1
        refine (h.served l hl open_).of_holds (fun waiting held => held.frame ?_ rfl rfl) id
        simp [MemoryBus.named, MemoryBus.subscribe, List.filter_append, apart.symm]
    rw [begins, found]
    obtain started | ⟨fault, fails⟩ := outcome
    · rw [started]
      refine ⟨earlier.numbered, fun l hl => ?_, fun l hl open_ => ?_⟩
      · rcases List.mem_append.mp hl with hl | hl
        · exact earlier.listeners l hl
        · cases List.mem_singleton.mp hl
          exact ⟨Nat.lt_succ_self _, Nat.le_refl _⟩
      · rcases List.mem_append.mp hl with hl | hl
        · exact earlier.served l hl open_
        · cases List.mem_singleton.mp hl
          refine .listening rfl (h.numbered.subscribe_holds opened rfl rfl) ?_
          simp [Listener.due]
    · rw [fails]
      exact earlier

theorem Sound.amend (h : history.Sound) (serial : Nat) {bus : MemoryBus}
    {change : Listener → Listener} (numbered : bus.Numbered)
    (started : bus.started = history.bus.started)
    (kept : ∀ l, (change l).serial = l.serial ∧ (change l).since = l.since)
    (others : ∀ l ∈ history.listeners, l.serial ≠ serial →
      l.Served history.bus history.published → l.Served bus history.published)
    (served : ∀ l ∈ history.listeners, l.serial = serial → (change l).loopOpen = true →
      (change l).Served bus history.published) :
    ({ history with bus := bus }.amend serial change).Sound := by
  refine ⟨numbered, fun l hl => ?_, fun l hl open_ => ?_⟩
  · obtain ⟨old, listed, rfl⟩ := List.mem_map.mp hl
    obtain ⟨below, since⟩ := h.listeners old listed
    rw [← started] at below
    split
    · exact ⟨(kept old).1 ▸ below, (kept old).2 ▸ since⟩
    · exact ⟨below, since⟩
  · obtain ⟨old, listed, rfl⟩ := List.mem_map.mp hl
    split at open_
    · rename_i same
      rw [if_pos same]
      exact served old listed same open_
    · rename_i differs
      rw [if_neg differs]
      exact others old listed differs (h.served old listed open_)

theorem Sound.receive (h : history.Sound) (serial : Nat) : (history.receive serial).Sound := by
  unfold BusHistory.receive
  split
  · exact h
  · rename_i bus posting taken
    have same := MemoryBus.receive_eq taken
    have numbered := h.numbered.receive taken
    -- Only the listener of this number takes something; the others keep what waits for them.
    refine h.amend serial ?_ ?_
      (fun l => ⟨(l.take_kept posting).1, (l.take_kept posting).2.1⟩)
      (fun l _ differs served => ?_) fun l listed own open_ => ?_
    · cases posting with
      | message => exact numbered
      | ended => exact numbered.discard serial
    · cases posting <;> rw [same] <;> rfl
    · have kept (s : Subscription) :
          ({ s with queue := s.queue.tail } : Subscription).serial = s.serial := rfl
      have named := MemoryBus.named_update history.bus l.serial serial kept
      rw [if_neg differs, ← same] at named
      refine served.of_holds (fun waiting held => held.frame ?_ ?_ ?_) ?_
      · cases posting with
        | message => exact named
        | ended => exact (MemoryBus.discard_named bus differs).trans named
      all_goals cases posting <;> rw [same] <;> first | rfl | exact id
    · cases h.served l listed ((l.take_kept posting).2.2 ▸ open_) with
      | listening stage held all =>
          rw [← own] at taken
          cases posting with
          | message channel payload =>
              obtain ⟨rest, rfl, remains⟩ := held.receive_message taken
              have takes : l.take (.message channel payload) =
                  { l with yielded := l.yielded ++ [(channel, payload)] } := by
                simp only [Listener.take, stage]
              rw [takes]
              refine .listening stage ⟨remains.subscribed, remains.backlog⟩ ?_
              rw [List.append_assoc]
              exact all
          | ended =>
              obtain ⟨rfl, closed⟩ := held.receive_ended taken
              have takes : l.take .ended = { l with stage := .ended } := by
                simp only [Listener.take, stage]
              rw [takes]
              refine .ended rfl ((MemoryBus.receive_closed taken).trans closed) ?_
              rw [← List.append_nil l.yielded]
              exact all
      | ended stage closed all =>
          have takes : l.take posting = l := by simp only [Listener.take, stage]
          rw [takes]
          refine .ended stage ?_ all
          rw [same]
          cases posting <;> exact closed
      | left stage =>
          have takes : l.take posting = l := by simp only [Listener.take, stage]
          rw [takes]
          exact .left stage

theorem Sound.leave (h : history.Sound) (serial : Nat) : (history.leave serial).Sound := by
  refine h.amend serial (h.numbered.discard serial) rfl (fun l => ?_) (fun l _ differs served => ?_)
    fun l listed same open_ => ?_
  · unfold Listener.leave
    split <;> exact ⟨rfl, rfl⟩
  · exact served.of_holds
      (fun waiting held => held.frame (MemoryBus.discard_named _ differs) rfl rfl) id
  · cases stage : l.stage with
    | listening => exact .left (by simp only [Listener.leave, stage])
    | ended | left =>
        have stays : l.leave = l := by simp only [Listener.leave, stage]
        rw [stays] at open_ ⊢
        cases h.served l listed open_ with
        | listening at_ => cases stage.symm.trans at_
        | ended at_ closed all => exact .ended at_ closed all
        | left at_ => exact .left at_

theorem Sound.closeLoop (h : history.Sound) (serial : Nat) : (history.closeLoop serial).Sound := by
  have kept (s : Subscription) : ({ s with reachable := false } : Subscription).serial = s.serial :=
    rfl
  refine h.amend serial (h.numbered.update serial kept) rfl (fun l => ⟨rfl, rfl⟩)
    (fun l _ differs served => ?_) fun l _ _ open_ => absurd open_ Bool.false_ne_true
  have named := MemoryBus.named_update history.bus l.serial serial kept
  rw [if_neg differs] at named
  exact served.of_holds (fun waiting held => held.frame named rfl rfl) id

theorem Sound.of_holds (h : history.Sound) {next : MemoryBus} (numbered : next.Numbered)
    (started : next.started = history.bus.started)
    (holds : ∀ l waiting, history.bus.Holds l waiting → next.Holds l waiting)
    (closed : history.bus.closed = true → next.closed = true) :
    { history with bus := next }.Sound where
  numbered := numbered
  listeners l hl := started ▸ h.listeners l hl
  served l hl open_ := (h.served l hl open_).of_holds (holds l) closed

theorem Sound.deliver (h : history.Sound) (serial : Nat) :
    { history with bus := history.bus.deliverTo serial }.Sound := by
  refine h.of_holds (h.numbered.deliverTo serial) ?_ (fun l waiting held => held.deliverTo serial)
    fun closed => (history.bus.deliverTo_closed serial).trans closed
  unfold MemoryBus.deliverTo
  split <;> rfl

theorem Sound.close (h : history.Sound) : { history with bus := history.bus.close.1 }.Sound := by
  refine h.of_holds h.numbered.close ?_ (fun l waiting held => held.close) ?_
  all_goals
    unfold MemoryBus.close
    split
  · rfl
  · rfl
  · exact id
  · exact fun _ => rfl

theorem Sound.perform (h : history.Sound) (act : Act) : (history.perform act).Sound := by
  cases act with
  | publish channel payload => exact h.publish channel payload
  | listen channels => exact h.listen channels
  | deliver serial => exact h.deliver serial
  | receive serial => exact h.receive serial
  | leave serial => exact h.leave serial
  | closeLoop serial => exact h.closeLoop serial
  | close => exact h.close

theorem start_sound : start.Sound where
  numbered := ⟨fun _ hs => (by cases hs), fun _ hp => (by cases hp)⟩
  listeners _ hl := by cases hl
  served _ hl := by cases hl

theorem run_sound (acts : List Act) : (run acts).Sound :=
  List.foldlRecOn (motive := Sound) acts perform start_sound fun _ sound act _ => sound.perform act

/-- As long as its event loop is open, a listener that has not been left has yielded, followed by
the messages in its backlog, what has been published on its channels since it began, in that order.
One that has come to its end has done so on a closed bus and has yielded all of it. -/
theorem yielded_in_order (acts : List Act) {listener : Listener}
    (listed : listener ∈ (run acts).listeners) (loopOpen : listener.loopOpen = true) :
    (listener.stage = .listening →
      listener.yielded ++ ((run acts).bus.backlog listener.serial).filterMap Posting.message? =
        listener.due (run acts).published) ∧
      (listener.stage = .ended → (run acts).bus.closed = true ∧
        listener.yielded = listener.due (run acts).published) := by
  have messages (waiting : List BusMessage) :
      (waiting.map fun message => Posting.message message.1 message.2).filterMap
        Posting.message? = waiting := by
    simp [List.filterMap_map, Function.comp_def, Posting.message?]
  cases (run_sound acts).served listener listed loopOpen with
  | listening stage held all =>
      refine ⟨fun _ => ?_, fun ended => absurd (stage.symm.trans ended) nofun⟩
      rw [held.backlog, List.filterMap_append, messages, ← all]
      split <;> simp [Posting.message?]
  | ended stage closed all =>
      exact ⟨fun listening => absurd (stage.symm.trans listening) nofun, fun _ => ⟨closed, all⟩⟩
  | left stage =>
      exact ⟨fun listening => absurd (stage.symm.trans listening) nofun,
        fun ended => absurd (stage.symm.trans ended) nofun⟩

def brief : List Act :=
  [.listen (.texts ["blocks"]), .publish (.text "blocks") (.text "1"),
    .publish (.text "events") (.text "2"), .deliver 0, .publish (.text "blocks") (.text "3")]

def briefEnd : List Act :=
  brief ++ [.receive 0, .close, .deliver 0, .deliver 0, .receive 0, .receive 0]

def briefListener (yielded : List BusMessage) (stage : Stage) : Listener :=
  ⟨0, [(Value.texts ["blocks"]).withSlot (.text "blocks")], 0, yielded, stage, true⟩

theorem yielded_in_order_brief :
    (run brief).listeners = [briefListener [] .listening] ∧
      [] ++ ((run brief).bus.backlog 0).filterMap Posting.message? =
        (briefListener [] .listening).due (run brief).published ∧
      ∃ yielded, (run briefEnd).listeners = [briefListener yielded .ended] ∧
        (run briefEnd).bus.closed = true ∧
        yielded = (briefListener yielded .ended).due (run briefEnd).published := by
  have listening : (run brief).listeners = [briefListener [] .listening] := rfl
  have ended : (run briefEnd).listeners = [briefListener
      [(.text "blocks", .text "1"), (.text "blocks", .text "3")] .ended] := rfl
  have first := yielded_in_order brief (listening ▸ List.mem_singleton_self _) rfl
  have last := yielded_in_order briefEnd (ended ▸ List.mem_singleton_self _) rfl
  exact ⟨listening, first.1 rfl, _, ended, last.2 rfl⟩

end BusHistory

end LedgerFeed
