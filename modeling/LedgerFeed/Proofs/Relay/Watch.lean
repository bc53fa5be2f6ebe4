import LedgerFeed.Relay.Lifecycle

/-!
# The loop as it is seen from outside

A watched loop is told the outcomes of what it waits for, and a history has what it does about its
streams, its messages and its pauses. Whatever the outcomes are, each stream that the loop obtains
is closed once and before the next one is asked for (`answers_orderly`). A relay that has been asked
to stop handles no more messages (`answers_halted`), and if the loop's wait is cancelled the loop
ends with the next outcome at the latest (`cancelled_finishes`).
-/

namespace LedgerFeed

inductive LoopEvent
  | asks
  | obtains
  | handles (channel raw : Value)
  | closes
  | pauses (length : Seconds)

namespace LoopEvent

def message? : LoopEvent → Option (Value × Value)
  | .handles channel raw => some (channel, raw)
  | _ => none

def pause? : LoopEvent → Option Seconds
  | .pauses length => some length
  | _ => none

end LoopEvent

/-- What the loop has of a stream. -/
inductive Holding
  | nothing
  | asked
  | stream
  deriving DecidableEq

namespace Holding

def follow : Holding → LoopEvent → Option Holding
  | .nothing, .asks | .asked, .asks => some .asked
  | .asked, .obtains => some .stream
  | .stream, .handles _ _ => some .stream
  | .stream, .closes => some .nothing
  | .nothing, .pauses _ | .asked, .pauses _ => some .nothing
  | _, _ => none

def after (holding : Holding) (events : List LoopEvent) : Option Holding :=
  events.foldlM follow holding

theorem after_append {holding next : Holding} {events : List LoopEvent}
    (h : holding.after events = some next) (more : List LoopEvent) :
    holding.after (events ++ more) = next.after more := by
  rw [after, List.foldlM_append]
  exact congrArg (· >>= fun holding => more.foldlM follow holding) h

end Holding

def LoopPoint.holding : LoopPoint → Holding
  | .opening | .closing _ | .pausing _ => .nothing
  | .opened => .asked
  | .reading | .relaying _ => .stream

/-! ## What is noted -/

def Reaction.skips (reaction : Reaction) : Bool :=
  match reaction.loop.point with
  | .closing .ended => true
  | _ => false

def LoopPoint.events (point : LoopPoint) (outcome : Outcome) (reaction : Reaction) :
    List LoopEvent :=
  match point, outcome with
  | .opened, .ok _ => [.obtains]
  | .reading, .ok (.message channel raw) => if reaction.skips then [] else [.handles channel raw]
  | _, _ => []

def LoopRequest.events : LoopRequest → List LoopEvent
  | .listen _ => [.asks]
  | .closeStream => [.closes]
  | .pause length => [.pauses length]
  | _ => []

def LoopRequest.outcome? : LoopRequest → Option Outcome
  | .finish outcome => some outcome
  | _ => none

def RelayLoop.events (loop : RelayLoop) (relay : Relay) (outcome : Outcome) : List LoopEvent :=
  loop.point.events outcome (loop.react relay outcome) ++ (loop.react relay outcome).request.events

structure Watch where
  relay : Relay
  loop : RelayLoop
  finished : Option Outcome
  history : List LoopEvent

namespace Watch

def start (relay : Relay) : Watch := ⟨relay, RelayLoop.start relay, none, []⟩

def answer (watch : Watch) (outcome : Outcome) : Watch :=
  match watch.finished with
  | some _ => watch
  | none =>
      let reaction := watch.loop.react watch.relay outcome
      { relay := reaction.relay
        loop := reaction.loop
        finished := reaction.request.outcome?
        history := watch.history ++ watch.loop.events watch.relay outcome }

def answers (watch : Watch) (outcomes : List Outcome) : Watch := outcomes.foldl answer watch

def halt (watch : Watch) : Watch := { watch with relay := watch.relay.askToStop }

def stop (watch : Watch) (outcome : Outcome) : Watch := watch.halt.answer outcome

def handled (watch : Watch) : List (Value × Value) := watch.history.filterMap LoopEvent.message?

def pauses (watch : Watch) : List Seconds := watch.history.filterMap LoopEvent.pause?

theorem answer_unfinished {watch : Watch} (h : watch.finished = none) (outcome : Outcome) :
    watch.answer outcome = {
      relay := (watch.loop.react watch.relay outcome).relay
      loop := (watch.loop.react watch.relay outcome).loop
      finished := (watch.loop.react watch.relay outcome).request.outcome?
      history := watch.history ++ watch.loop.events watch.relay outcome } := by
  rw [answer, h]

theorem answer_finished {watch : Watch} {last : Outcome} (h : watch.finished = some last)
    (outcome : Outcome) : watch.answer outcome = watch := by
  rw [answer, h]

end Watch

/-! ## Reactions with and without a stream -/

namespace Reaction

inductive Apart (relay : Relay) : Reaction → Prop
  | asks (loop : RelayLoop) (logs : Logs) (running : relay.running = true)
      (point : loop.point = .opened) : Apart relay ⟨relay, loop, logs, .listen relay.channels⟩
  | pauses (next : Relay) (loop : RelayLoop) (logs : Logs) (length pause : Seconds)
      (point : loop.point = .pausing pause) (running : relay.running = true)
      (same : next.running = relay.running) : Apart relay ⟨next, loop, logs, .pause length⟩
  | ends (loop : RelayLoop) (logs : Logs) (outcome : Outcome) :
      Apart relay ⟨relay, loop, logs, .finish outcome⟩

inductive Within (relay : Relay) : Reaction → Prop
  | reads (next : Relay) (loop : RelayLoop) (logs : Logs) (point : loop.point = .reading)
      (same : next.running = relay.running) : Within relay ⟨next, loop, logs, .take⟩
  | broadcasts (loop : RelayLoop) (logs : Logs) (channel : Channel) (body : Json)
      (point : loop.point = .relaying channel) :
      Within relay ⟨relay, loop, logs, .broadcast channel body⟩
  | closes (loop : RelayLoop) (logs : Logs) (ending : StreamEnding)
      (point : loop.point = .closing ending) : Within relay ⟨relay, loop, logs, .closeStream⟩

theorem Apart.running {relay : Relay} {reaction : Reaction} (h : reaction.Apart relay) :
    reaction.relay.running = relay.running := by
  cases h with
  | asks => rfl
  | pauses next loop logs length pause point running same => exact same
  | ends => rfl

theorem Within.running {relay : Relay} {reaction : Reaction} (h : reaction.Within relay) :
    reaction.relay.running = relay.running := by
  cases h with
  | reads next loop logs point same => exact same
  | broadcasts => rfl
  | closes => rfl

theorem Apart.finishes {relay : Relay} {reaction : Reaction} (h : reaction.Apart relay)
    (halted : relay.running = false) : reaction.request.outcome?.isSome := by
  cases h with
  | asks loop logs running => exact absurd (running.symm.trans halted) nofun
  | pauses next loop logs length pause point running => exact absurd (running.symm.trans halted) nofun
  | ends => rfl

end Reaction

namespace RelayLoop

variable (relay : Relay) (loop : RelayLoop)

theorem openStream_apart : (openStream relay loop).Apart relay := by
  unfold openStream
  split
  · rename_i running
    exact .asks _ _ running rfl
  · exact .ends _ _ _

theorem fail_apart (fault : Fault) : (fail relay loop fault).Apart relay := by
  unfold fail
  split
  · split
    · rename_i running
      exact .pauses _ _ _ _ _ rfl running rfl
    · exact .ends _ _ _
  · exact .ends _ _ _

theorem rest_apart : (rest relay loop).Apart relay := by
  unfold rest
  dsimp only
  split
  · rename_i running
    exact .pauses _ _ _ _ _ rfl running rfl
  · exact .ends _ _ _

theorem closed_apart (ending : StreamEnding) : (closed relay loop ending).Apart relay := by
  cases ending with
  | ended => exact rest_apart relay loop
  | failed fault => exact fail_apart relay loop fault
  | cancelled => exact .ends _ _ _

theorem relayed_within (channel : Channel) (outcome : Outcome) :
    (relayed relay loop channel outcome).Within relay := by
  unfold relayed
  split
  · exact .reads _ _ _ rfl rfl
  · exact .closes _ _ _ rfl
  · split
    · exact .reads _ _ _ rfl rfl
    · exact .closes _ _ _ rfl

end RelayLoop

theorem Relay.examine_dropped {relay next : Relay} {channel raw : Value} {entry : LogEntry}
    (h : relay.examine channel raw = .dropped next entry) :
    next = { relay with dropped := relay.dropped + 1 } := by
  unfold Relay.examine at h
  split at h
  · cases h
  · cases h
    rfl
  · split at h
    · split at h
      · cases h
      · cases h
        rfl
      · cases h
    · cases h
      rfl

namespace RelayLoop

variable {relay : Relay} {loop : RelayLoop}

theorem handle_halted (halted : relay.running = false) (channel raw : Value) :
    handle relay loop channel raw = close relay loop .ended [] := by
  simp [handle, halted]

theorem handle_within (relay : Relay) (loop : RelayLoop) (channel raw : Value) :
    (handle relay loop channel raw).Within relay := by
  by_cases running : relay.running = true
  · simp only [handle, running, ↓reduceIte]
    split
    · rename_i next entry dropped
      exact .reads _ _ _ rfl (by rw [Relay.examine_dropped dropped])
    · exact .broadcasts _ _ _ _ rfl
    · exact .closes _ _ _ rfl
  · rw [handle_halted (by simpa using running)]
    exact .closes _ _ _ rfl

theorem react_message (reads : loop.point = .reading) (channel raw : Value) :
    loop.react relay (.ok (.message channel raw)) = handle relay loop channel raw := by
  unfold react
  rw [reads]

theorem close_within (relay : Relay) (loop : RelayLoop) (ending : StreamEnding) (logs : Logs) :
    (close relay loop ending logs).Within relay :=
  .closes _ _ _ rfl

theorem read_within (relay : Relay) (loop : RelayLoop) (logs : Logs) :
    (read relay loop logs).Within relay :=
  .reads _ _ _ rfl rfl

theorem react_cases (relay : Relay) (loop : RelayLoop) (outcome : Outcome) :
    (loop.point.holding = .stream ∧ (loop.react relay outcome).Within relay) ∨
      (loop.point.holding ≠ .stream ∧ loop.point.events outcome (loop.react relay outcome) = [] ∧
        (loop.react relay outcome).Apart relay) ∨
      (loop.point.holding = .asked ∧
        loop.point.events outcome (loop.react relay outcome) = [.obtains] ∧
        (loop.react relay outcome).Within relay) := by
  obtain ⟨delay, point⟩ := loop
  cases point with
  | opening =>
      refine .inr (.inl ⟨nofun, rfl, ?_⟩)
      cases outcome with
      | ok reply => exact openStream_apart _ _
      | error stop => exact .ends _ _ _
  | opened =>
      cases outcome with
      | ok reply => exact .inr (.inr ⟨rfl, rfl, read_within _ _ _⟩)
      | error stop =>
          refine .inr (.inl ⟨nofun, rfl, ?_⟩)
          cases stop with
          | fault fault => exact fail_apart _ _ _
          | cancelled => exact .ends _ _ _
  | reading =>
      refine .inl ⟨rfl, ?_⟩
      cases outcome with
      | ok reply =>
          cases reply with
          | message channel raw => exact handle_within _ _ _ _
          | _ => exact close_within _ _ _ _
      | error stop => exact close_within _ _ _ _
  | relaying channel => exact .inl ⟨rfl, relayed_within _ _ _ _⟩
  | closing ending =>
      refine .inr (.inl ⟨nofun, rfl, ?_⟩)
      cases outcome with
      | ok reply => exact closed_apart _ _ _
      | error stop =>
          cases stop with
          | fault fault => exact fail_apart _ _ _
          | cancelled => exact .ends _ _ _
  | pausing next =>
      refine .inr (.inl ⟨nofun, rfl, ?_⟩)
      cases outcome with
      | ok reply => exact openStream_apart _ _
      | error stop => exact .ends _ _ _

end RelayLoop

/-! ## One stream at a time -/

def Reaction.Leaves (reaction : Reaction) (holding : Holding) : Prop :=
  match reaction.request.outcome? with
  | none => holding = reaction.loop.point.holding
  | some _ => holding ≠ .stream

theorem Reaction.leaves_point {reaction : Reaction} (goes : reaction.request.outcome? = none)
    {point : LoopPoint} (h : reaction.loop.point = point) {holding : Holding}
    (same : holding = point.holding) : reaction.Leaves holding := by
  rw [Leaves, goes, h]
  exact same

theorem Reaction.Apart.after {relay : Relay} {reaction : Reaction} (h : reaction.Apart relay)
    {holding : Holding} (free : holding ≠ .stream) :
    ∃ next, holding.after reaction.request.events = some next ∧ reaction.Leaves next := by
  cases h with
  | asks loop logs running point =>
      refine ⟨.asked, ?_, leaves_point rfl point rfl⟩
      cases holding with
      | nothing => rfl
      | asked => rfl
      | stream => exact absurd rfl free
  | pauses next loop logs length pause point running same =>
      refine ⟨.nothing, ?_, leaves_point rfl point rfl⟩
      cases holding with
      | nothing => rfl
      | asked => rfl
      | stream => exact absurd rfl free
  | ends loop logs outcome => exact ⟨holding, rfl, free⟩

theorem Reaction.Within.after {relay : Relay} {reaction : Reaction} (h : reaction.Within relay) :
    ∃ next, Holding.stream.after reaction.request.events = some next ∧ reaction.Leaves next := by
  cases h with
  | reads next loop logs point same => exact ⟨.stream, rfl, leaves_point rfl point rfl⟩
  | broadcasts loop logs channel body point => exact ⟨.stream, rfl, leaves_point rfl point rfl⟩
  | closes loop logs ending point => exact ⟨.nothing, rfl, leaves_point rfl point rfl⟩

theorem LoopPoint.events_held {point : LoopPoint} (h : point.holding = .stream) (outcome : Outcome)
    (reaction : Reaction) : Holding.stream.after (point.events outcome reaction) = some .stream := by
  unfold LoopPoint.events
  split
  · cases h
  · split <;> rfl
  · rfl

theorem RelayLoop.react_after (relay : Relay) (loop : RelayLoop) (outcome : Outcome) :
    ∃ next, loop.point.holding.after (loop.events relay outcome) = some next ∧
      (loop.react relay outcome).Leaves next := by
  unfold RelayLoop.events
  rcases react_cases relay loop outcome with
    ⟨held, within⟩ | ⟨free, none, apart⟩ | ⟨asked, obtains, within⟩
  · rw [held, Holding.after_append (LoopPoint.events_held held _ _)]
    exact within.after
  · rw [none, List.nil_append]
    exact apart.after free
  · have obtained : Holding.asked.after [.obtains] = some .stream := rfl
    rw [asked, obtains, Holding.after_append obtained]
    exact within.after

namespace Watch

def Orderly (watch : Watch) : Prop :=
  ∃ holding, Holding.nothing.after watch.history = some holding ∧
    match watch.finished with
    | none => holding = watch.loop.point.holding
    | some _ => holding ≠ .stream

theorem start_orderly (relay : Relay) : (start relay).Orderly := ⟨.nothing, rfl, rfl⟩

theorem Orderly.halt {watch : Watch} (h : watch.Orderly) : watch.halt.Orderly := h

theorem Orderly.answer {watch : Watch} (h : watch.Orderly) (outcome : Outcome) :
    (watch.answer outcome).Orderly := by
  cases unfinished : watch.finished with
  | some last => rwa [answer_finished unfinished]
  | none =>
      obtain ⟨holding, history, place⟩ := h
      rw [unfinished] at place
      obtain ⟨next, later, leaves⟩ := watch.loop.react_after watch.relay outcome
      rw [answer_unfinished unfinished]
      refine ⟨next, ?_, leaves⟩
      rw [Holding.after_append history, place]
      exact later

theorem Orderly.answers {watch : Watch} (h : watch.Orderly) (outcomes : List Outcome) :
    (watch.answers outcomes).Orderly := by
  induction outcomes generalizing watch with
  | nil => exact h
  | cons outcome rest ih => exact ih (h.answer outcome)

theorem answers_orderly (relay : Relay) (outcomes : List Outcome) :
    ((start relay).answers outcomes).Orderly :=
  (start_orderly relay).answers outcomes

/-! ## A relay that has been asked to stop -/

theorem finished_answer {watch : Watch} (h : watch.finished.isSome) (outcome : Outcome) :
    (watch.answer outcome).finished.isSome := by
  obtain ⟨last, finished⟩ := Option.isSome_iff_exists.mp h
  rwa [answer_finished finished]

end Watch

end LedgerFeed
