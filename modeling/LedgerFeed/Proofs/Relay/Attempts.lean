import LedgerFeed.Proofs.Relay.Isolation
import LedgerFeed.Proofs.Relay.Watch

/-!
# Attempts at a subscription

An outlook says what comes of the loop's attempts at a subscription, one after the other. An attempt
is refused, or it gets a stream that brings messages, ends and is closed. After the last attempt there
is a stream that brings nothing. `RelayRun.advance` gives the loop the next outcome of its outlook.
What attempts come to, `Attempt.history` and `Attempt.relayAfter`, is said of the attempts alone.
-/

namespace LedgerFeed

/-! ## Messages in a row -/

namespace Relay

structure Alike (relay other : Relay) : Prop where
  channels : relay.channels = other.channels
  reconnectDelay : relay.reconnectDelay = other.reconnectDelay
  maxReconnectDelay : relay.maxReconnectDelay = other.maxReconnectDelay
  running : relay.running = other.running

theorem Alike.refl (relay : Relay) : relay.Alike relay := ⟨rfl, rfl, rfl, rfl⟩

theorem Alike.trans {relay other third : Relay} (h : relay.Alike other) (h' : other.Alike third) :
    relay.Alike third :=
  ⟨h.channels.trans h'.channels, h.reconnectDelay.trans h'.reconnectDelay,
    h.maxReconnectDelay.trans h'.maxReconnectDelay, h.running.trans h'.running⟩

theorem Alike.counted {relay other : Relay} (h : relay.Alike other)
    (relayed dropped reconnects : Nat) :
    Alike { relay with relayed := relayed, dropped := dropped, reconnects := reconnects } other :=
  ⟨h.channels, h.reconnectDelay, h.maxReconnectDelay, h.running⟩

def handleAll (relay : Relay) (arrivals : List Arrival) : Relay :=
  arrivals.foldl (fun relay arrival => (relay.handleMessage arrival).relay) relay

theorem handleMessage_keeps (relay : Relay) (arrival : Arrival) :
    (relay.handleMessage arrival).relay.Alike relay ∧
      (relay.handleMessage arrival).relay.reconnects = relay.reconnects := by
  unfold handleMessage
  split
  · rename_i next entry dropped
    rw [examine_dropped dropped]
    exact ⟨⟨rfl, rfl, rfl, rfl⟩, rfl⟩
  · split
    · exact ⟨⟨rfl, rfl, rfl, rfl⟩, rfl⟩
    · split
      · exact ⟨⟨rfl, rfl, rfl, rfl⟩, rfl⟩
      · exact ⟨.refl relay, rfl⟩
  · exact ⟨.refl relay, rfl⟩

theorem handleAll_keeps (relay : Relay) (arrivals : List Arrival) :
    (relay.handleAll arrivals).Alike relay ∧
      (relay.handleAll arrivals).reconnects = relay.reconnects := by
  induction arrivals generalizing relay with
  | nil => exact ⟨.refl relay, rfl⟩
  | cons arrival rest ih =>
      obtain ⟨same, count⟩ := relay.handleMessage_keeps arrival
      obtain ⟨later, laterCount⟩ := ih (relay.handleMessage arrival).relay
      exact ⟨later.trans same, laterCount.trans count⟩

theorem handleAll_append (relay : Relay) (arrivals more : List Arrival) :
    relay.handleAll (arrivals ++ more) = (relay.handleAll arrivals).handleAll more :=
  List.foldl_append

theorem handleAll_snoc (relay : Relay) (arrivals : List Arrival) (arrival : Arrival) :
    relay.handleAll (arrivals ++ [arrival]) =
      ((relay.handleAll arrivals).handleMessage arrival).relay :=
  handleAll_append relay arrivals [arrival]

theorem examine_channels {relay other : Relay} (same : other.channels = relay.channels)
    (channel raw : Value) :
    other.examine channel raw =
      match relay.examine channel raw with
      | .dropped _ entry => other.drop entry
      | .accepted resolved body => .accepted resolved body
      | .failed fault => .failed fault := by
  unfold examine
  rw [same]
  cases resolve channel with
  | error fault => rfl
  | ok found =>
      cases found with
      | none => rfl
      | some resolved =>
          by_cases listed : relay.channels.contains resolved = true
          · simp only [listed, ↓reduceIte]
            cases parsePayload resolved.name raw with
            | ok body => rfl
            | error fault => cases fault <;> rfl
          · simp only [listed]
            rfl

theorem handleMessage_result {relay other : Relay} (same : other.channels = relay.channels)
    (arrival : Arrival) :
    (other.handleMessage arrival).result = (relay.handleMessage arrival).result := by
  unfold handleMessage
  rw [examine_channels same]
  cases relay.examine arrival.channel arrival.raw with
  | dropped next entry => rfl
  | failed fault => rfl
  | accepted channel body =>
      cases arrival.answer with
      | ok count => rfl
      | error fault =>
          by_cases ordinary : fault.isOrdinary = true
          · simp only [ordinary, ↓reduceIte]
            rfl
          · simp only [ordinary, Bool.false_eq_true, ↓reduceIte]

theorem handleMessage_recount (relay : Relay) (reconnects : Nat) (arrival : Arrival) :
    ({ relay with reconnects := reconnects }.handleMessage arrival).relay =
      { (relay.handleMessage arrival).relay with reconnects := reconnects } := by
  unfold handleMessage
  have same : { relay with reconnects := reconnects }.channels = relay.channels := rfl
  rw [examine_channels same]
  cases examined : relay.examine arrival.channel arrival.raw with
  | dropped next entry =>
      rw [examine_dropped examined]
      rfl
  | failed fault => rfl
  | accepted channel body =>
      cases arrival.answer with
      | ok count => rfl
      | error fault =>
          dsimp only
          split <;> rfl

theorem handleAll_recount (relay : Relay) (reconnects : Nat) (arrivals : List Arrival) :
    { relay with reconnects := reconnects }.handleAll arrivals =
      { relay.handleAll arrivals with reconnects := reconnects } := by
  induction arrivals generalizing relay with
  | nil => rfl
  | cons arrival rest ih =>
      have first := handleMessage_recount relay reconnects arrival
      rw [handleAll, List.foldl_cons, first]
      exact ih (relay.handleMessage arrival).relay

end Relay

/-! ## Outlooks and runs -/

structure Supply where
  arrivals : List Arrival
  ending : Option Fault
  closing : Option Fault

inductive Attempt
  | refused (fault : Fault)
  | streamed (supply : Supply)

namespace Attempt

def arrivals : Attempt → List Arrival
  | .refused _ => []
  | .streamed supply => supply.arrivals

def fails : Attempt → Bool
  | .refused _ => true
  | .streamed supply => supply.ending.isSome || supply.closing.isSome

def Ordinary : Attempt → Prop
  | .refused fault => fault.isOrdinary = true
  | .streamed supply => ∀ fault, supply.ending = some fault ∨ supply.closing = some fault →
      fault.isOrdinary = true

end Attempt

/-- What is to come: the attempts, what the open stream still brings, and the message in hand. -/
structure Outlook where
  attempts : List Attempt
  stream : Option Supply
  inHand : Option Arrival

def endOf : Option Fault → Outcome
  | some fault => .error (.fault fault)
  | none => .nothing

def Outlook.serve (outlook : Outlook) : LoopPoint → Option (Outcome × Outlook)
  | .opening | .pausing _ => some (.nothing, outlook)
  | .opened =>
      match outlook.attempts with
      | [] => some (.nothing, { outlook with stream := none })
      | .refused fault :: rest => some (.error (.fault fault), { outlook with attempts := rest })
      | .streamed supply :: rest =>
          some (.nothing, { outlook with attempts := rest, stream := some supply })
  | .reading =>
      match outlook.stream with
      | none => none
      | some ⟨[], ending, _⟩ => some (endOf ending, outlook)
      | some ⟨arrival :: rest, ending, closing⟩ =>
          some (.ok (.message arrival.channel arrival.raw),
            { outlook with stream := some ⟨rest, ending, closing⟩, inHand := some arrival })
  | .relaying _ => outlook.inHand.map fun arrival => (arrival.outcome, outlook)
  | .closing _ => some (endOf (outlook.stream.bind Supply.closing), outlook)

structure RelayRun where
  watch : Watch
  outlook : Outlook

namespace RelayRun

def begin (relay : Relay) (attempts : List Attempt) : RelayRun :=
  ⟨Watch.start relay, ⟨attempts, none, none⟩⟩

def advance (run : RelayRun) : RelayRun :=
  match run.outlook.serve run.watch.loop.point with
  | some (outcome, outlook) => ⟨run.watch.answer outcome, outlook⟩
  | none => run

end RelayRun

/-! ## What attempts come to -/

namespace Attempt

variable (relay : Relay)

def pause (delay : Seconds) (attempt : Attempt) : Seconds :=
  if attempt.fails then delay else relay.reconnectDelay

def nextDelay (delay : Seconds) (attempt : Attempt) : Seconds :=
  if attempt.fails then delay.double.least relay.maxReconnectDelay else relay.reconnectDelay

def delayAfter (attempts : List Attempt) : Seconds :=
  attempts.foldl (nextDelay relay) relay.reconnectDelay

def arrived (arrival : Arrival) : LoopEvent := .handles arrival.channel arrival.raw

def events : Attempt → List LoopEvent
  | .refused _ => [.asks]
  | .streamed supply => .asks :: .obtains :: (supply.arrivals.map arrived ++ [.closes])

def historyFrom (delay : Seconds) : List Attempt → List LoopEvent
  | [] => []
  | attempt :: rest =>
      attempt.events ++ .pauses (attempt.pause relay delay) ::
        historyFrom (attempt.nextDelay relay delay) rest

def history (attempts : List Attempt) : List LoopEvent :=
  historyFrom relay relay.reconnectDelay attempts

def settle (attempt : Attempt) : Relay :=
  { relay.handleAll attempt.arrivals with
    reconnects := relay.reconnects + if attempt.fails then 1 else 0 }

def relayAfter (attempts : List Attempt) : Relay := attempts.foldl settle relay

theorem historyFrom_append (delay : Seconds) (past more : List Attempt) :
    historyFrom relay delay (past ++ more) =
      historyFrom relay delay past ++ historyFrom relay (past.foldl (nextDelay relay) delay) more := by
  induction past generalizing delay with
  | nil => rfl
  | cons attempt past ih => simp [historyFrom, ih]

theorem history_append (past more : List Attempt) :
    history relay (past ++ more) =
      history relay past ++ historyFrom relay (delayAfter relay past) more :=
  historyFrom_append relay _ past more

theorem delayAfter_snoc (past : List Attempt) (attempt : Attempt) :
    delayAfter relay (past ++ [attempt]) = attempt.nextDelay relay (delayAfter relay past) := by
  rw [delayAfter, List.foldl_append]
  rfl

theorem relayAfter_snoc (past : List Attempt) (attempt : Attempt) :
    relayAfter relay (past ++ [attempt]) = attempt.settle (relayAfter relay past) := by
  rw [relayAfter, List.foldl_append]
  rfl

theorem history_snoc (past : List Attempt) (attempt : Attempt) :
    history relay (past ++ [attempt]) = history relay past ++
      (attempt.events ++ [.pauses (attempt.pause relay (delayAfter relay past))]) :=
  history_append relay past [attempt]

theorem settle_failed {attempt : Attempt} (fails : attempt.fails = true) :
    { relay.handleAll attempt.arrivals with
      reconnects := (relay.handleAll attempt.arrivals).reconnects + 1 } = attempt.settle relay := by
  rw [settle, (relay.handleAll_keeps attempt.arrivals).2, fails]
  rfl

theorem settle_ended {attempt : Attempt} (ends : attempt.fails = false) :
    relay.handleAll attempt.arrivals = attempt.settle relay := by
  rw [settle, ends, ← (relay.handleAll_keeps attempt.arrivals).2]
  rfl

theorem settle_alike (attempt : Attempt) : (attempt.settle relay).Alike relay := by
  obtain ⟨same, -⟩ := relay.handleAll_keeps attempt.arrivals
  exact same.counted _ _ _

theorem relayAfter_alike (attempts : List Attempt) : (relayAfter relay attempts).Alike relay := by
  induction attempts generalizing relay with
  | nil => exact .refl relay
  | cons attempt rest ih => exact (ih (attempt.settle relay)).trans (settle_alike relay attempt)

theorem handleAll_alike (past : List Attempt) (arrivals : List Arrival) :
    ((relayAfter relay past).handleAll arrivals).Alike relay :=
  ((relayAfter relay past).handleAll_keeps arrivals).1.trans (relayAfter_alike relay past)

theorem relayAfter_eq (attempts : List Attempt) :
    relayAfter relay attempts = { relay.handleAll (attempts.flatMap arrivals) with
      reconnects := relay.reconnects + attempts.countP fails } := by
  induction attempts generalizing relay with
  | nil => rfl
  | cons attempt rest ih =>
      have count : relay.reconnects + (attempt :: rest).countP fails =
          (attempt.settle relay).reconnects + rest.countP fails := by
        rw [List.countP_cons, settle]
        dsimp only
        omega
      rw [List.flatMap_cons, Relay.handleAll_append, count, relayAfter, List.foldl_cons]
      refine (ih (attempt.settle relay)).trans ?_
      rw [show (attempt.settle relay).handleAll _ = _ from Relay.handleAll_recount _ _ _]

theorem relayAfter_reconnects (attempts : List Attempt) :
    (relayAfter relay attempts).reconnects = relay.reconnects + attempts.countP fails :=
  congrArg Relay.reconnects (relayAfter_eq relay attempts)

/-! ## Messages and pauses of a history -/

theorem pauses_arrived (arrivals : List Arrival) :
    (arrivals.map arrived).filterMap LoopEvent.pause? = [] := by
  rw [List.filterMap_map]
  exact List.filterMap_eq_nil_iff.mpr fun _ _ => rfl

theorem pauses_events (attempt : Attempt) : attempt.events.filterMap LoopEvent.pause? = [] := by
  cases attempt with
  | refused fault => rfl
  | streamed supply =>
      rw [events, List.filterMap_cons_none rfl, List.filterMap_cons_none rfl, List.filterMap_append,
        pauses_arrived]
      rfl

theorem pauses_historyFrom (delay : Seconds) (attempts : List Attempt) :
    ((historyFrom relay delay attempts).filterMap LoopEvent.pause?).length = attempts.length := by
  induction attempts generalizing delay with
  | nil => rfl
  | cons attempt rest ih =>
      rw [historyFrom, List.filterMap_append, pauses_events]
      simpa [LoopEvent.pause?] using ih (attempt.nextDelay relay delay)

end Attempt

/-! ## Reactions of a relay that runs -/

namespace RelayLoop

variable {relay : Relay} (running : relay.running = true) (loop : RelayLoop)

include running

theorem openStream_running :
    openStream relay loop = ⟨relay, { loop with point := .opened }, [], .listen relay.channels⟩ :=
  if_pos running

theorem fail_running {fault : Fault} (ordinary : fault.isOrdinary = true) :
    fail relay loop fault =
      ⟨{ relay with reconnects := relay.reconnects + 1 },
        { loop with point := .pausing (loop.delay.double.least relay.maxReconnectDelay) },
        [streamError fault loop.delay], .pause loop.delay⟩ := by
  rw [fail, if_pos ordinary, if_pos running]

theorem rest_running :
    rest relay loop =
      ⟨relay, ⟨relay.reconnectDelay, .pausing relay.reconnectDelay⟩,
        [Relay.log .warning "relay_stream_ended" []], .pause relay.reconnectDelay⟩ :=
  if_pos running

theorem handle_arrival {arrival : Arrival} {result : Bool}
    (handled : (relay.handleMessage arrival).result = .ok result) :
    (∃ logs, handle relay loop arrival.channel arrival.raw =
        read (relay.handleMessage arrival).relay loop logs) ∨
      ∃ channel body, handle relay loop arrival.channel arrival.raw =
          ⟨relay, { loop with point := .relaying channel }, [], .broadcast channel body⟩ ∧
        ∃ logs, ∀ loop, relayed relay loop channel arrival.outcome =
          read (relay.handleMessage arrival).relay loop logs := by
  unfold handle Relay.handleMessage at *
  rw [if_pos running]
  generalize relay.examine arrival.channel arrival.raw = examined at handled ⊢
  cases examined with
  | dropped next entry => exact .inl ⟨_, rfl⟩
  | failed fault => cases handled
  | accepted channel body =>
      refine .inr ⟨channel, body, rfl, ?_⟩
      unfold Arrival.outcome
      cases answer : arrival.answer with
      | ok count => exact ⟨_, fun loop => rfl⟩
      | error fault =>
          rw [answer] at handled
          by_cases ordinary : fault.isOrdinary = true
          · simp only [relayed, ordinary, ↓reduceIte]
            exact ⟨_, fun loop => rfl⟩
          · simp only [ordinary, Bool.false_eq_true, ↓reduceIte] at handled
            cases handled

end RelayLoop

end LedgerFeed
