import Mathlib.Data.List.Nodup
import LedgerFeed.Proofs.Bus.Listeners
import LedgerFeed.Proofs.Value.Words

/-!
# Who is subscribed

Listeners begin on a bus and finish: one comes to its end by taking the end marker of a closed bus,
and one is left when its consumer stops early, is cancelled, or has an exception. As long as all
event loops are open and channels are named by texts, the subscriptions of the bus are those of the
listeners that have begun and not finished, each of them once. So a publication reaches exactly the
ones that want its channel (`registry_exact`).
-/

namespace LedgerFeed

theorem map_changed {α β : Type} {p : α → Prop} [DecidablePred p] {change : α → α} {view : α → β}
    (kept : ∀ item, view (change item) = view item) (items : List α) :
    (items.map fun item => if p item then change item else item).map view = items.map view := by
  rw [List.map_map]
  refine List.map_congr_left fun item _ => ?_
  rw [Function.comp_apply]
  split
  · exact kept item
  · rfl

def Value.Lists (channels : Value) (names : List Text) : Prop :=
  ∃ slots, channels.slot.items channels.heap = .ok slots ∧ Texts slots ∧ contents slots = names

theorem Value.texts_lists (names : List String) : ∃ listed, (Value.texts names).Lists listed := by
  refine ⟨_, names.map fun (name : String) => .text name, rfl, fun slot listed => ?_, rfl⟩
  obtain ⟨name, -, rfl⟩ := List.mem_map.mp listed
  rfl

def Listener.running (listener : Listener) : Bool := listener.stage matches .listening

def Subscription.entry (s : Subscription) : Nat × List Value × Bool :=
  (s.serial, s.channels, s.reachable)

def Listener.entry (listener : Listener) : Nat × List Value × Bool :=
  (listener.serial, listener.channels, true)

namespace MemoryBus

variable {bus : MemoryBus}

/-! ## The bus by itself -/

theorem wants_text {channels channel : Value} {wanted : List Slot} {name : Text}
    (text : channel.text? = some name) :
    (wanted.map channels.withSlot).any (fun value => value.sameAs channel) =
      decide (name ∈ contents wanted) := by
  have same (slot : Slot) : (channels.withSlot slot).sameAs channel = decide (slot.text? = some name) :=
    sameWithin_text text
  rw [List.any_map, Bool.eq_iff_iff, List.any_eq_true, decide_eq_true_eq, contents,
    List.mem_filterMap]
  simp only [Function.comp_apply, same, decide_eq_true_eq]

theorem listen_texts (bus : MemoryBus) {channels : Value} {names : List Text}
    (lists : channels.Lists names) (reachable : Bool) :
    ∃ wanted, channelSet channels = .ok wanted ∧
      (∀ name, name ∈ contents wanted ↔ name ∈ names) ∧
      (bus.closed = true → bus.listen channels reachable = ⟨bus, .error (.bus (.closed none)), []⟩) ∧
      (bus.closed = false → ∃ logs, bus.listen channels reachable =
        ⟨(bus.subscribe (wanted.map channels.withSlot) reachable).1, .ok bus.started, logs⟩) := by
  obtain ⟨slots, items, texts, rfl⟩ := lists
  obtain ⟨wanted, set, all, names⟩ := setOf_texts channels.heap texts
  obtain ⟨sorted, sorts⟩ := sortSlots_texts channels.heap all
  have found : channelSet channels = .ok wanted := by
    rw [channelSet, items]
    exact set
  refine ⟨wanted, found, names, fun closed => ?_, fun opened => ?_⟩
  · simp [listen, found, closed]
  · obtain ⟨reported, reports⟩ :
        ∃ reported, subscribedEntry channels.heap wanted = .ok reported := by
      rw [subscribedEntry, sorts]
      exact ⟨_, rfl⟩
    refine ⟨[reported], ?_⟩
    rw [listen, found]
    simp only [opened, Bool.false_eq_true, ↓reduceIte, reports]
    rfl

theorem post_reaches (reachable : ∀ s ∈ bus.subscriptions, s.reachable = true)
    (channel payload : Value) :
    bus.post channel payload =
      ({ bus with
          posted := bus.posted ++ (bus.subscriptions.filter fun s => s.wants channel).map fun s =>
            (s.serial, .message channel payload) },
        (bus.subscriptions.filter fun s => s.wants channel).length) := by
  have reached : (bus.subscriptions.filter fun s => s.wants channel && s.reachable) =
      bus.subscriptions.filter fun s => s.wants channel :=
    List.filter_congr fun s listed => by rw [reachable s listed, Bool.and_true]
  have kept : (bus.subscriptions.filter fun s => !(s.wants channel) || s.reachable) =
      bus.subscriptions :=
    List.filter_eq_self.mpr fun s listed => by rw [reachable s listed, Bool.or_true]
  simp only [post, reached, kept]

theorem publish_text (opened : bus.closed = false) {channel : Value}
    (text : channel.text?.isSome) (payload : Value) :
    bus.publish channel payload =
      ((bus.post channel payload).1, .ok (bus.post channel payload).2) := by
  have checked : checkWanted channel = .ok () := by
    unfold checkWanted
    split
    · rfl
    · exact checkKey_text text
  simp [publish, opened, checked]

theorem update_entries (bus : MemoryBus) (serial : Nat) {change : Subscription → Subscription}
    (kept : ∀ s, (change s).entry = s.entry) :
    (bus.update serial change).subscriptions.map Subscription.entry =
      bus.subscriptions.map Subscription.entry :=
  map_changed kept bus.subscriptions

structure Over (bus : MemoryBus) : Prop where
  publishes : ∀ channel payload,
    bus.publish channel payload = (bus, .error (.bus (.closed (some channel))))
  begins : ∀ {channels : Value} {names : List Text}, channels.Lists names → ∀ reachable,
    bus.listen channels reachable = ⟨bus, .error (.bus (.closed none)), []⟩
  closes : bus.close = (bus, [])

theorem closed_over (closed : bus.closed = true) : bus.Over where
  publishes channel payload := by rw [publish, if_pos closed]
  begins lists reachable := by
    obtain ⟨wanted, -, -, fails, -⟩ := bus.listen_texts lists reachable
    exact fails closed
  closes := by rw [close, if_pos closed]

end MemoryBus

namespace BusHistory

def running (history : BusHistory) : List Listener := history.listeners.filter Listener.running

def targets (history : BusHistory) (channel payload : Value) : List Listener :=
  history.running.filter fun listener => listener.wants (channel, payload)

/-- Listeners name their channels by texts, and their event loops stay open. -/
def Act.Regular : Act → Prop
  | .listen channels => ∃ names, channels.Lists names
  | .closeLoop _ => False
  | .publish _ _ | .deliver _ | .receive _ | .leave _ | .close => True

structure Registered (history : BusHistory) : Prop where
  listed : history.bus.subscriptions.map Subscription.entry = history.running.map Listener.entry
  once : ((history.listeners.map Listener.entry).map (·.1)).Nodup

variable {history : BusHistory}

/-! ## What acts do to the listeners -/

theorem amend_entries (history : BusHistory) (serial : Nat) {change : Listener → Listener}
    (kept : ∀ l, (change l).entry = l.entry) :
    (history.amend serial change).listeners.map Listener.entry =
      history.listeners.map Listener.entry :=
  map_changed kept history.listeners

theorem take_entry (listener : Listener) (posting : Posting) :
    (listener.take posting).entry = listener.entry := by
  unfold Listener.take
  split <;> rfl

theorem leave_entry (listener : Listener) : listener.leave.entry = listener.entry := by
  unfold Listener.leave
  split <;> rfl

theorem amend_goes_on (history : BusHistory) (serial : Nat) {change : Listener → Listener}
    (kept : ∀ l, (change l).entry = l.entry ∧ (change l).running = l.running) :
    (history.amend serial change).running.map Listener.entry =
      history.running.map Listener.entry := by
  let view (l : Listener) := (l.running, l.entry)
  have viewed (history : BusHistory) : history.running.map Listener.entry =
      ((history.listeners.map view).filter (·.1)).map (·.2) := by
    rw [running, List.filter_map, List.map_map]
    rfl
  have same : (history.amend serial change).listeners.map view = history.listeners.map view :=
    map_changed (fun l => Prod.ext (kept l).2 (kept l).1) history.listeners
  rw [viewed, viewed, same]

theorem amend_finishes (history : BusHistory) (serial : Nat) {change : Listener → Listener}
    (finishes : ∀ l, (change l).running = false) :
    (history.amend serial change).running = history.running.filter fun l => l.serial ≠ serial := by
  unfold running amend
  induction history.listeners with
  | nil => rfl
  | cons l rest ih =>
      by_cases same : l.serial = serial
      · simp only [List.map_cons, same, ↓reduceIte, List.filter_cons, finishes, Bool.false_eq_true, ih]
        split <;> simp [same]
      · simp only [List.map_cons, same, ↓reduceIte, List.filter_cons, ih]
        split <;> simp [same]

theorem listen_begins (opened : history.bus.closed = false) {channels : Value}
    {names : List Text} (lists : channels.Lists names) :
    ∃ wanted : List Slot, (∀ name, name ∈ contents wanted ↔ name ∈ names) ∧
      history.listen channels =
        { history with
          bus := (history.bus.subscribe (wanted.map channels.withSlot) true).1
          listeners := history.listeners ++ [⟨history.bus.started, wanted.map channels.withSlot,
            history.published.length, [], .listening, true⟩] } := by
  obtain ⟨wanted, found, asked, -, begins⟩ := history.bus.listen_texts lists true
  obtain ⟨logs, begins⟩ := begins opened
  refine ⟨wanted, asked, ?_⟩
  simp only [BusHistory.listen, found, begins]

theorem listen_closed (closed : history.bus.closed = true) {channels : Value}
    {names : List Text} (lists : channels.Lists names) : history.listen channels = history := by
  obtain ⟨wanted, found, -, fails, -⟩ := history.bus.listen_texts lists true
  simp only [BusHistory.listen, found, fails closed]

/-! ## Registered histories -/

namespace Registered

theorem reachable (h : history.Registered) : ∀ s ∈ history.bus.subscriptions, s.reachable = true := by
  intro s listed
  have entered := List.mem_map_of_mem (f := Subscription.entry) listed
  rw [h.listed] at entered
  obtain ⟨l, -, same⟩ := List.mem_map.mp entered
  exact (congrArg (·.2.2) same).symm

theorem filter (h : history.Registered) (kind : Nat × List Value × Bool → Bool) :
    (history.bus.subscriptions.filter (kind ∘ Subscription.entry)).map Subscription.entry =
      (history.running.filter (kind ∘ Listener.entry)).map Listener.entry := by
  simpa only [List.filter_map] using congrArg (List.filter kind) h.listed

theorem publish (h : history.Registered) (channel payload : Value) :
    (history.publish channel payload).Registered := by
  unfold BusHistory.publish
  obtain ⟨fault, same⟩ | ⟨opened, count, posts⟩ := history.bus.publish_cases channel payload
  · rw [same]
    exact ⟨h.listed, h.once⟩
  · rw [posts, MemoryBus.post_reaches h.reachable]
    exact ⟨h.listed, h.once⟩

theorem deliver (h : history.Registered) (serial : Nat) :
    { history with bus := history.bus.deliverTo serial }.Registered := by
  refine ⟨Eq.trans ?_ h.listed, h.once⟩
  dsimp only
  unfold MemoryBus.deliverTo
  split
  · rfl
  · exact MemoryBus.update_entries _ serial fun _ => rfl

theorem discard (h : history.Registered) (serial : Nat) {change : Listener → Listener}
    (kept : ∀ l, (change l).entry = l.entry) (finishes : ∀ l, (change l).running = false) :
    ({ history with bus := history.bus.discard serial }.amend serial change).Registered where
  listed := by
    rw [amend_finishes _ serial finishes]
    exact h.filter fun entry => entry.1 ≠ serial
  once := by
    rw [amend_entries _ serial kept]
    exact h.once

theorem receive (h : history.Registered) (serial : Nat) : (history.receive serial).Registered := by
  unfold BusHistory.receive
  split
  · exact h
  · rename_i bus posting taken
    have entries : bus.subscriptions.map Subscription.entry =
        history.bus.subscriptions.map Subscription.entry := by
      rw [MemoryBus.receive_eq taken]
      exact MemoryBus.update_entries _ _ fun _ => rfl
    have took : { history with bus := bus }.Registered := ⟨entries.trans h.listed, h.once⟩
    cases posting with
    | message channel payload =>
        have goesOn (l : Listener) : (l.take (.message channel payload)).running = l.running := by
          cases stage : l.stage <;> simp [Listener.take, Listener.running, stage]
        refine ⟨?_, ?_⟩
        · rw [amend_goes_on _ serial fun l => ⟨take_entry l _, goesOn l⟩]
          exact took.listed
        · rw [amend_entries _ serial fun l => take_entry l _]
          exact took.once
    | ended =>
        refine took.discard serial (fun l => take_entry l _) fun l => ?_
        cases stage : l.stage <;> simp [Listener.take, Listener.running, stage]

theorem leave (h : history.Registered) (serial : Nat) : (history.leave serial).Registered := by
  refine h.discard serial leave_entry fun l => ?_
  cases stage : l.stage <;> simp [Listener.leave, Listener.running, stage]

theorem close (h : history.Registered) :
    { history with bus := history.bus.close.1 }.Registered := by
  refine ⟨?_, h.once⟩
  dsimp only
  unfold MemoryBus.close
  split <;> exact h.listed

theorem listen (h : history.Registered) (sound : history.Sound) {channels : Value}
    {names : List Text} (lists : channels.Lists names) :
    (history.listen channels).Registered := by
  cases closed : history.bus.closed with
  | true => exact (listen_closed closed lists).symm ▸ h
  | false =>
      obtain ⟨wanted, -, begins⟩ := listen_begins closed lists
      rw [begins]
      refine ⟨?_, ?_⟩
      · rw [MemoryBus.subscribe, running, List.filter_append, List.map_append, List.map_append]
        exact congrArg₂ (· ++ ·) h.listed rfl
      · rw [List.map_append, List.map_append, List.nodup_append]
        refine ⟨h.once, List.nodup_singleton _, fun serial earlier other new => ?_⟩
        cases List.mem_singleton.mp new
        simp only [List.map_map, List.mem_map] at earlier
        obtain ⟨l, listed, rfl⟩ := earlier
        exact Nat.ne_of_lt (sound.listeners l listed).1

theorem perform (h : history.Registered) (sound : history.Sound) {act : Act}
    (regular : act.Regular) : (history.perform act).Registered := by
  cases act with
  | publish channel payload => exact h.publish channel payload
  | listen channels =>
      obtain ⟨names, lists⟩ := regular
      exact h.listen sound lists
  | deliver serial => exact h.deliver serial
  | receive serial => exact h.receive serial
  | leave serial => exact h.leave serial
  | closeLoop serial => exact regular.elim
  | close => exact h.close

end Registered

theorem run_registered {acts : List Act} (regular : ∀ act ∈ acts, act.Regular) :
    (run acts).Registered := by
  have both : (run acts).Sound ∧ (run acts).Registered := by
    refine List.foldlRecOn (motive := fun history => history.Sound ∧ history.Registered) acts
      perform ⟨start_sound, rfl, List.nodup_nil⟩ fun history h act performed => ?_
    exact ⟨h.1.perform act, h.2.perform h.1 (regular act performed)⟩
  exact both.2

/-! ## What lasts -/

theorem perform_entries (history : BusHistory) (act : Act) :
    history.listeners.map Listener.entry <+: (history.perform act).listeners.map Listener.entry := by
  have amended (bus : MemoryBus) (serial : Nat) {change : Listener → Listener}
      (kept : ∀ l, (change l).entry = l.entry) : history.listeners.map Listener.entry <+:
        ({ history with bus := bus }.amend serial change).listeners.map Listener.entry := by
    have same := amend_entries { history with bus := bus } serial kept
    exact same ▸ List.prefix_rfl
  cases act with
  | publish channel payload =>
      rw [perform, publish]
      split <;> exact List.prefix_rfl
  | listen channels =>
      rw [perform, listen]
      split
      · rw [List.map_append]
        exact List.prefix_append _ _
      · exact List.prefix_rfl
  | receive serial =>
      rw [perform, receive]
      split
      · exact List.prefix_rfl
      · exact amended _ serial fun l => take_entry l _
  | leave serial => exact amended _ serial leave_entry
  | closeLoop serial => exact amended _ serial fun _ => rfl
  | deliver | close => exact List.prefix_rfl

theorem foldl_entries (history : BusHistory) (acts : List Act) :
    history.listeners.map Listener.entry <+:
      (acts.foldl perform history).listeners.map Listener.entry :=
  List.foldlRecOn
    (motive := fun next =>
      history.listeners.map Listener.entry <+: next.listeners.map Listener.entry)
    acts perform List.prefix_rfl fun next kept act _ => kept.trans (perform_entries next act)

theorem amend_finished {serial : Nat} {change : Listener → Listener} {listener : Listener}
    (listed : listener ∈ history.listeners) (same : change listener = listener) :
    listener ∈ (history.amend serial change).listeners := by
  refine List.mem_map.mpr ⟨listener, listed, ?_⟩
  rw [same, ite_self]

theorem perform_finished {act : Act} (regular : act.Regular) {listener : Listener}
    (listed : listener ∈ history.listeners) (finished : listener.running = false) :
    listener ∈ (history.perform act).listeners := by
  cases act with
  | publish channel payload =>
      rw [perform, publish]
      split <;> exact listed
  | listen channels =>
      rw [perform, listen]
      split
      · exact List.mem_append_left _ listed
      · exact listed
  | receive serial =>
      rw [perform, receive]
      split
      · exact listed
      · refine amend_finished listed ?_
        cases stage : listener.stage <;> simp_all [Listener.take, Listener.running]
  | leave serial =>
      refine amend_finished listed ?_
      cases stage : listener.stage <;> simp_all [Listener.leave, Listener.running]
  | closeLoop serial => exact regular.elim
  | deliver | close => exact listed

theorem foldl_finished {acts : List Act} (regular : ∀ act ∈ acts, act.Regular)
    {listener : Listener} (listed : listener ∈ history.listeners)
    (finished : listener.running = false) :
    listener ∈ (acts.foldl perform history).listeners :=
  List.foldlRecOn (motive := fun history => listener ∈ history.listeners) acts perform listed
    fun _ still act performed => perform_finished (regular act performed) still finished

theorem perform_closed (closed : history.bus.closed = true) (act : Act) :
    (history.perform act).bus.closed = true := by
  cases act with
  | publish channel payload =>
      obtain ⟨fault, same⟩ | ⟨opened, -⟩ := history.bus.publish_cases channel payload
      · rw [perform, publish, same]
        exact closed
      · exact absurd (opened.symm.trans closed) Bool.false_ne_true
  | listen channels =>
      obtain ⟨same, fault, fails⟩ | ⟨opened, -⟩ := history.bus.listen_cases channels true
      · simp only [perform, listen, fails, same]
        split <;> exact closed
      · exact absurd (opened.symm.trans closed) Bool.false_ne_true
  | deliver serial => exact (MemoryBus.deliverTo_closed _ serial).trans closed
  | receive serial =>
      rw [perform, receive]
      split
      · exact closed
      · rename_i bus posting taken
        have still := (MemoryBus.receive_closed taken).trans closed
        cases posting <;> exact still
  | leave | closeLoop => exact closed
  | close =>
      rw [perform, MemoryBus.close, if_pos closed]
      exact closed

theorem foldl_closed (closed : history.bus.closed = true) (acts : List Act) :
    (acts.foldl perform history).bus.closed = true :=
  List.foldlRecOn (motive := fun history => history.bus.closed = true) acts perform closed
    fun _ still act _ => perform_closed still act

/-! ## The registry -/

/-- Who begins to listen does so under the channels asked for. A publication is posted to each of
the running listeners that want its channel, which is all that is done about it. -/
structure Serves (history : BusHistory) : Prop where
  begins : ∀ {channels : Value} {names : List Text}, channels.Lists names →
    ∃ listener, (history.listen channels).listeners = history.listeners ++ [listener] ∧
      listener.running = true ∧
      ∀ {channel : Value} {name : Text}, channel.text? = some name → ∀ payload,
        listener.wants (channel, payload) = decide (name ∈ names)
  publishes : ∀ {channel : Value}, channel.text?.isSome → ∀ payload,
    history.bus.publish channel payload =
      ({ history.bus with
          posted := history.bus.posted ++ (history.targets channel payload).map fun listener =>
            (listener.serial, .message channel payload) },
        .ok (history.targets channel payload).length)

namespace Registered

theorem serves (h : history.Registered) (opened : history.bus.closed = false) :
    history.Serves where
  begins lists := by
    obtain ⟨wanted, asked, begins⟩ := listen_begins opened lists
    refine ⟨_, congrArg BusHistory.listeners begins, rfl, fun text payload => ?_⟩
    rw [Listener.wants, MemoryBus.wants_text text, decide_eq_decide]
    exact asked _
  publishes {channel} text payload := by
    -- Whether a channel is wanted can be read off what a subscription shares with its listener.
    have wanting := h.filter fun entry => entry.2.1.any fun wanted => wanted.sameAs channel
    change (history.bus.subscriptions.filter fun s => s.wants channel).map Subscription.entry =
      (history.targets channel payload).map Listener.entry at wanting
    have count := congrArg List.length wanting
    have posts := congrArg (List.map fun entry => (entry.1, Posting.message channel payload)) wanting
    rw [List.length_map, List.length_map] at count
    rw [List.map_map, List.map_map] at posts
    rw [MemoryBus.publish_text opened text, MemoryBus.post_reaches h.reachable, count]
    refine congrArg (fun posts => (({ history.bus with
      posted := history.bus.posted ++ posts } : MemoryBus), _)) posts

theorem running_once (h : history.Registered) :
    (history.bus.subscriptions.map (·.serial)).Nodup := by
  have serials : history.bus.subscriptions.map (·.serial) =
      (history.running.map Listener.entry).map (·.1) := by
    rw [← h.listed, List.map_map]
    rfl
  rw [serials]
  exact ((List.filter_sublist.map _).map _).nodup h.once

theorem targets_running (h : history.Registered) {listener target : Listener}
    (listed : listener ∈ history.listeners) (finished : listener.running = false)
    {channel payload : Value} (targeted : target ∈ history.targets channel payload) :
    target.serial ≠ listener.serial := by
  obtain ⟨started, running⟩ := List.mem_filter.mp (List.mem_filter.mp targeted).1
  intro same
  have once := h.once
  rw [List.map_map] at once
  cases List.inj_on_of_nodup_map once started listed same
  exact absurd (running.symm.trans finished) nofun

end Registered

/-- The subscriptions are those of the listeners that have begun and not finished, each of them
once. While the bus is open, it serves them. Listeners keep their channels, and one that has finished
is posted to no more, whatever is done later. Once the bus is closed, it stays so. -/
theorem registry_exact {acts later : List Act} (regular : ∀ act ∈ acts ++ later, act.Regular) :
    let history := run acts
    let after := run (acts ++ later)
    (history.bus.subscriptions.map Subscription.entry = history.running.map Listener.entry ∧
      history.bus.subscriberCount = history.running.length ∧
      (history.bus.subscriptions.map (·.serial)).Nodup) ∧
    (history.bus.closed = false → history.Serves) ∧
    history.listeners.map Listener.entry <+: after.listeners.map Listener.entry ∧
    (∀ listener ∈ history.listeners, listener.running = false →
      ∀ channel payload, ∀ target ∈ after.targets channel payload,
        target.serial ≠ listener.serial) ∧
    (history.bus.closed = true → after.bus.Over) := by
  obtain ⟨first, rest⟩ := List.forall_mem_append.mp regular
  have registered := run_registered first
  have counted := congrArg List.length registered.listed
  rw [List.length_map, List.length_map] at counted
  have goesOn : run (acts ++ later) = later.foldl perform (run acts) := List.foldl_append
  refine ⟨⟨registered.listed, counted, registered.running_once⟩, registered.serves, ?_, ?_, ?_⟩
  · exact goesOn ▸ foldl_entries (run acts) later
  · intro listener listed finished channel payload target targeted
    have still := foldl_finished rest listed finished
    exact (run_registered regular).targets_running (goesOn ▸ still) finished targeted
  · exact fun closed => MemoryBus.closed_over (goesOn ▸ foldl_closed closed later)

def attended : List Act :=
  [.listen (.texts ["blocks", "blocks"]), .listen (.texts ["events", "blocks"]), .leave 1]

def farewell : List Act :=
  [.publish (.text "blocks") (.text "1"), .close, .deliver 0, .deliver 0, .receive 0, .receive 0]

theorem registry_exact_attended :
    (∀ act ∈ attended ++ farewell, act.Regular) ∧
      (run attended).bus.subscriberCount = 1 ∧
      ((run attended).bus.publish (.text "blocks") (.text "1")).2 = .ok 1 ∧
      (∀ target ∈ (run (attended ++ farewell)).targets (.text "blocks") (.text "2"),
        target.serial ≠ 1) ∧
      (run (attended ++ farewell ++ [.close])).bus.Over := by
  have regular : ∀ act ∈ attended ++ farewell, act.Regular := by
    intro act listed
    simp only [attended, farewell, List.cons_append, List.nil_append, List.mem_cons,
      List.not_mem_nil, or_false] at listed
    rcases listed with rfl | rfl | rfl | rfl | rfl | rfl | rfl | rfl | rfl
    · exact Value.texts_lists _
    · exact Value.texts_lists _
    all_goals trivial
  have closes : ∀ act ∈ attended ++ farewell ++ [.close], act.Regular :=
    List.forall_mem_append.mpr ⟨regular, List.forall_mem_singleton.mpr trivial⟩
  obtain ⟨⟨-, counted, -⟩, serves, -, finished, -⟩ := registry_exact regular
  obtain ⟨-, -, -, -, ends⟩ := registry_exact closes
  refine ⟨regular, counted, ?_, ?_, ends rfl⟩
  · rw [(serves rfl).publishes rfl]
    rfl
  · exact finished _ (List.mem_cons_of_mem _ (List.mem_singleton_self _)) rfl _ _

end BusHistory

end LedgerFeed
