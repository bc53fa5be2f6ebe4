import Mathlib.Data.List.Induction
import Mathlib.Tactic.Linarith
import LedgerFeed.Proofs.Number.Rounding
import LedgerFeed.Proofs.Relay.Reconnects

namespace LedgerFeed

variable {relay current : Relay} {loop : RelayLoop} {delay next : Seconds}
  {endings later : List (Option Fault)} {arrival : Arrival} {fault : Fault}

/-! ## How sessions end -/

def breaks? (relay : Relay) (ending : Option Fault) : List Arrival → Option Fault
  | [] => ending
  | arrival :: rest =>
      match (relay.handleMessage arrival).result with
      | .ok _ => breaks? relay ending rest
      | .error fault => some fault

def Supply.fault? (relay : Relay) (supply : Supply) : Option Fault :=
  supply.closing.or (breaks? relay supply.ending supply.arrivals)

theorem Supply.fault?_handled {rest : List Arrival} {ending closing : Option Fault} {result : Bool}
    (handled : (relay.handleMessage arrival).result = .ok result) :
    Supply.fault? relay ⟨arrival :: rest, ending, closing⟩ =
      Supply.fault? relay ⟨rest, ending, closing⟩ := by
  simp only [fault?, breaks?, handled]

theorem Supply.fault?_broken {rest : List Arrival} {ending closing : Option Fault}
    (broken : (relay.handleMessage arrival).result = .error fault) :
    Supply.fault? relay ⟨arrival :: rest, ending, closing⟩ = closing.or (some fault) := by
  simp only [fault?, breaks?, broken]

def Attempt.fault? (relay : Relay) : Attempt → Option Fault
  | .refused fault => some fault
  | .streamed supply => supply.fault? relay

theorem breaks?_channels {other : Relay} (same : other.channels = relay.channels)
    (ending : Option Fault) (arrivals : List Arrival) :
    breaks? other ending arrivals = breaks? relay ending arrivals := by
  induction arrivals with
  | nil => rfl
  | cons arrival rest ih => simp only [breaks?, Relay.handleMessage_result same, ih]

theorem Attempt.fault?_channels {other : Relay} (same : other.channels = relay.channels)
    (attempt : Attempt) : attempt.fault? other = attempt.fault? relay := by
  cases attempt with
  | refused fault => rfl
  | streamed supply => simp only [fault?, Supply.fault?, breaks?_channels same]

/-! ## Rests -/

structure Rest where
  logs : Logs
  length : Seconds

def restAfter (relay : Relay) (delay : Seconds) : Option Fault → Rest
  | some fault => ⟨[RelayLoop.streamError fault delay], delay⟩
  | none => ⟨[Relay.log .warning "relay_stream_ended" []], relay.reconnectDelay⟩

def nextDelay (relay : Relay) (delay : Seconds) : Option Fault → Seconds
  | some _ => delay.double.least relay.maxReconnectDelay
  | none => relay.reconnectDelay

def rests (relay : Relay) (delay : Seconds) : List (Option Fault) → List Rest
  | [] => []
  | ending :: later =>
      restAfter relay delay ending :: rests relay (nextDelay relay delay ending) later

def Reaction.rest? (reaction : Reaction) : Option Rest :=
  match reaction.request with
  | .pause length => some ⟨reaction.logs, length⟩
  | _ => none

namespace RelayRun

def rest? (run : RelayRun) : Option Rest :=
  match run.watch.finished with
  | some _ => none
  | none => (run.outlook.serve run.watch.loop.point).bind fun served =>
      (run.watch.loop.react run.watch.relay served.1).rest?

def restsBy (relay : Relay) (attempts : List Attempt) (n : Nat) : List Rest :=
  (List.range n).filterMap fun i => (after relay attempts i).rest?

end RelayRun

/-! ## What is foretold -/

def Outlook.sessions (outlook : Outlook) (relay : Relay) : List (Option Fault) :=
  outlook.attempts.map (Attempt.fault? relay)

/-- The pause that follows the next failure, and how the sessions under way and to come will end. -/
inductive Foretells (relay : Relay) : RelayLoop → Outlook → Seconds → List (Option Fault) → Prop
  | opening (delay : Seconds) (outlook : Outlook) :
      Foretells relay ⟨delay, .opening⟩ outlook delay (outlook.sessions relay)
  | pausing (old delay : Seconds) (outlook : Outlook) :
      Foretells relay ⟨old, .pausing delay⟩ outlook delay (outlook.sessions relay)
  | asking (delay : Seconds) (outlook : Outlook) :
      Foretells relay ⟨delay, .opened⟩ outlook delay (outlook.sessions relay)
  | waiting (delay : Seconds) (outlook : Outlook) (silent : outlook.stream = none) :
      Foretells relay ⟨delay, .reading⟩ outlook delay []
  | reading (delay : Seconds) (outlook : Outlook) (supply : Supply)
      (stream : outlook.stream = some supply) :
      Foretells relay ⟨delay, .reading⟩ outlook delay
        (supply.fault? relay :: outlook.sessions relay)
  | relaying (delay : Seconds) (outlook : Outlook) (supply : Supply) (arrival : Arrival)
      (channel : Channel) (body : Json) (stream : outlook.stream = some supply)
      (inHand : outlook.inHand = some arrival)
      (accepted : relay.examine arrival.channel arrival.raw = .accepted channel body) :
      Foretells relay ⟨delay, .relaying channel⟩ outlook delay
        (Supply.fault? relay { supply with arrivals := arrival :: supply.arrivals } ::
          outlook.sessions relay)
  | closing (delay : Seconds) (outlook : Outlook) (supply : Supply) (ending : Option Fault)
      (stream : outlook.stream = some supply) :
      Foretells relay ⟨delay, .closing (endingOf ending)⟩ outlook delay
        (supply.closing.or ending :: outlook.sessions relay)

structure Going (relay : Relay) (watch : Watch) : Prop where
  unfinished : watch.finished = none
  alike : watch.relay.Alike relay

structure Onward (relay : Relay) (run : RelayRun) (delay : Seconds) (endings : List (Option Fault))
    (next : Seconds) (later : List (Option Fault)) : Prop where
  foretells : Foretells relay run.advance.watch.loop run.advance.outlook next later
  going : Going relay run.advance.watch
  rested : run.rest?.toList ++ rests relay next later = rests relay delay endings
  fewer : later <:+ endings
  lower : run.advance.rank < run.rank

structure Ends (run : RelayRun) (endings : List (Option Fault)) : Prop where
  uncaught : ∃ fault, some fault ∈ endings ∧ fault.isOrdinary = false
  restless : run.rest? = none
  finished : run.advance.watch.finished.isSome

section

variable {run : RelayRun} {outcome : Outcome} {outlook : Outlook} {reaction : Reaction}
  {ending : Option Fault}

theorem RelayRun.rest?_eq
    (serves : run.outlook.serve run.watch.loop.point = some (outcome, outlook))
    (unfinished : run.watch.finished = none)
    (reacts : run.watch.loop.react run.watch.relay outcome = reaction) :
    run.rest? = reaction.rest? := by
  rw [rest?, unfinished, serves]
  exact congrArg Reaction.rest? reacts

theorem onward_restless (going : Going relay run.watch)
    (serves : run.outlook.serve run.watch.loop.point = some (outcome, outlook))
    (reacts : run.watch.loop.react run.watch.relay outcome = reaction)
    (goes : reaction.request.outcome? = none) (restless : reaction.rest? = none)
    (alike : reaction.relay.Alike relay)
    (foretells : Foretells relay reaction.loop outlook delay endings)
    (lower : RelayRun.rank ⟨⟨reaction.relay, reaction.loop, none, []⟩, outlook⟩ < run.rank) :
    Onward relay run delay endings delay endings := by
  have rest := RelayRun.rest?_eq serves going.unfinished reacts
  have after := run.advance_eq serves going.unfinished reacts
  refine ⟨?_, ?_, ?_, List.suffix_rfl, ?_⟩
  · rw [after]
    exact foretells
  · rw [after]
    exact ⟨goes, alike⟩
  · rw [rest, restless]
    rfl
  · rw [after]
    exact lower

theorem onward_rest (going : Going relay run.watch)
    (serves : run.outlook.serve run.watch.loop.point = some (outcome, outlook))
    (reacts : run.watch.loop.react run.watch.relay outcome = reaction)
    (first : endings = ending :: outlook.sessions relay)
    (rest : reaction.rest? = some (restAfter relay delay ending))
    (alike : reaction.relay.Alike relay)
    (point : reaction.loop.point = .pausing (nextDelay relay delay ending))
    (lower : weight outlook.attempts + 2 < run.rank) :
    Onward relay run delay endings (nextDelay relay delay ending) (outlook.sessions relay) := by
  subst first
  have brings := RelayRun.rest?_eq serves going.unfinished reacts
  have after := run.advance_eq serves going.unfinished reacts
  obtain ⟨relay', ⟨old, point'⟩, logs, request⟩ := reaction
  obtain rfl : point' = _ := point
  refine ⟨?_, ?_, ?_, List.suffix_cons _ _, ?_⟩
  · rw [after]
    exact .pausing old _ outlook
  · rw [after]
    refine ⟨?_, alike⟩
    unfold Reaction.rest? at rest
    split at rest
    · rename_i length same
      exact congrArg LoopRequest.outcome? same
    · cases rest
  · rw [brings, rest]
    rfl
  · rw [after]
    exact lower

theorem ends_uncaught (unfinished : run.watch.finished = none)
    (serves : run.outlook.serve run.watch.loop.point = some (outcome, outlook))
    (reacts : run.watch.loop.react run.watch.relay outcome = RelayLoop.fail current loop fault)
    (uncaught : fault.isOrdinary = false) (listed : some fault ∈ endings) : Ends run endings := by
  have leaves : RelayLoop.fail current loop fault =
      RelayLoop.leave current loop (.error (.fault fault)) [] := by
    simp only [RelayLoop.fail, uncaught, Bool.false_eq_true, ↓reduceIte]
  rw [leaves] at reacts
  refine ⟨⟨fault, listed, uncaught⟩, RelayRun.rest?_eq serves unfinished reacts, ?_⟩
  rw [run.advance_eq serves unfinished reacts]
  rfl

end

/-! ## One outcome -/

section

variable (running : relay.running = true)

include running

theorem fail_rest (same : current.Alike relay) (loop : RelayLoop)
    (ordinary : fault.isOrdinary = true) :
    (RelayLoop.fail current loop fault).rest? = some (restAfter relay loop.delay (some fault)) ∧
      (RelayLoop.fail current loop fault).relay.Alike relay ∧
      (RelayLoop.fail current loop fault).loop.point =
        .pausing (nextDelay relay loop.delay (some fault)) := by
  rw [RelayLoop.fail_running (same.running.trans running) loop ordinary]
  refine ⟨rfl, same.counted _ _ _, ?_⟩
  rw [nextDelay, same.maxReconnectDelay]

theorem rest_rest (same : current.Alike relay) (loop : RelayLoop) :
    (RelayLoop.rest current loop).rest? = some (restAfter relay loop.delay none) ∧
      (RelayLoop.rest current loop).relay.Alike relay ∧
      (RelayLoop.rest current loop).loop.point = .pausing (nextDelay relay loop.delay none) := by
  rw [RelayLoop.rest_running (same.running.trans running) loop, same.reconnectDelay]
  refine ⟨?_, same, rfl⟩
  rw [Reaction.rest?, restAfter]

end

namespace Foretells

variable {history : List LoopEvent} {outlook : Outlook}

section

variable (running : relay.running = true) (same : current.Alike relay)

include running same

theorem opening_onward : Onward relay ⟨⟨current, ⟨delay, .opening⟩, none, history⟩, outlook⟩ delay
    (outlook.sessions relay) delay (outlook.sessions relay) := by
  refine onward_restless ⟨rfl, same⟩ rfl
    (RelayLoop.openStream_running (same.running.trans running) _) rfl rfl same
    (.asking delay outlook) ?_
  simp [RelayRun.rank]

theorem pausing_onward (old : Seconds) :
    Onward relay ⟨⟨current, ⟨old, .pausing delay⟩, none, history⟩, outlook⟩ delay
      (outlook.sessions relay) delay (outlook.sessions relay) := by
  refine onward_restless ⟨rfl, same⟩ rfl
    (RelayLoop.openStream_running (same.running.trans running) _) rfl rfl same
    (.asking delay outlook) ?_
  simp [RelayRun.rank]

theorem asking_onward :
    let run : RelayRun := ⟨⟨current, ⟨delay, .opened⟩, none, history⟩, outlook⟩
    (∃ next later, Onward relay run delay (outlook.sessions relay) next later) ∨
      Ends run (outlook.sessions relay) := by
  obtain ⟨coming, stream, inHand⟩ := outlook
  have reads : RelayLoop.react current ⟨delay, .opened⟩ .nothing =
      RelayLoop.read current ⟨delay, .opened⟩ [] := rfl
  cases coming with
  | nil =>
      have serves : Outlook.serve ⟨[], stream, inHand⟩ .opened =
          some (.nothing, ⟨[], none, inHand⟩) := rfl
      refine .inl ⟨_, _,
        onward_restless ⟨rfl, same⟩ serves reads rfl rfl same (.waiting delay _ rfl) ?_⟩
      simp [RelayRun.rank, RelayLoop.read]
  | cons attempt rest =>
      cases attempt with
      | refused fault =>
          have serves : Outlook.serve ⟨.refused fault :: rest, stream, inHand⟩ .opened =
              some (.error (.fault fault), ⟨rest, stream, inHand⟩) := rfl
          have fails : RelayLoop.react current ⟨delay, .opened⟩ (.error (.fault fault)) =
              RelayLoop.fail current ⟨delay, .opened⟩ fault := rfl
          by_cases ordinary : fault.isOrdinary = false
          · exact .inr (ends_uncaught rfl serves fails ordinary List.mem_cons_self)
          obtain ⟨rests, alike, point⟩ := fail_rest running same ⟨delay, .opened⟩
            (Bool.eq_true_of_not_eq_false ordinary)
          have lower : weight rest + 2 < RelayRun.rank ⟨⟨current, ⟨delay, .opened⟩, none, history⟩,
              ⟨.refused fault :: rest, stream, inHand⟩⟩ := by
            simp only [RelayRun.rank, weight]
            omega
          exact .inl ⟨_, _, onward_rest ⟨rfl, same⟩ serves fails rfl rests alike point lower⟩
      | streamed supply =>
          have serves : Outlook.serve ⟨.streamed supply :: rest, stream, inHand⟩ .opened =
              some (.nothing, ⟨rest, some supply, inHand⟩) := rfl
          refine .inl ⟨_, _, onward_restless ⟨rfl, same⟩ serves reads rfl rfl same
            (.reading delay _ supply rfl) ?_⟩
          simp only [RelayRun.rank, RelayLoop.read, weight, Attempt.arrivals, Option.map_some,
            Option.getD_some]
          omega

theorem reading_onward {supply : Supply} (stream : outlook.stream = some supply) :
    ∃ next later, Onward relay ⟨⟨current, ⟨delay, .reading⟩, none, history⟩, outlook⟩ delay
      (supply.fault? relay :: outlook.sessions relay) next later := by
  obtain ⟨coming, bringing, inHand⟩ := outlook
  obtain rfl : bringing = _ := stream
  obtain ⟨arrivals, ending, closing⟩ := supply
  -- Without a message the stream is closed, and so it is after a message that breaks it.
  cases arrivals with
  | nil =>
      have serves : Outlook.serve ⟨coming, some ⟨[], ending, closing⟩, inHand⟩ .reading =
          some (endOf ending, ⟨coming, some ⟨[], ending, closing⟩, inHand⟩) := rfl
      have closes := RelayLoop.react_endOf current delay ending
      refine ⟨_, _, onward_restless ⟨rfl, same⟩ serves closes rfl rfl same
        (.closing delay _ ⟨[], ending, closing⟩ ending rfl) ?_⟩
      simp [RelayRun.rank, RelayLoop.close]
  | cons arrival rest =>
      have serves : Outlook.serve ⟨coming, some ⟨arrival :: rest, ending, closing⟩, inHand⟩
          .reading = some (.ok (.message arrival.channel arrival.raw),
            ⟨coming, some ⟨rest, ending, closing⟩, some arrival⟩) := rfl
      have handles : RelayLoop.react current ⟨delay, .reading⟩
          (.ok (.message arrival.channel arrival.raw)) =
            RelayLoop.handle current ⟨delay, .reading⟩ arrival.channel arrival.raw := rfl
      rw [RelayLoop.handle, if_pos (same.running.trans running),
        Relay.examine_channels same.channels] at handles
      cases examined : relay.examine arrival.channel arrival.raw with
      | dropped dropping entry =>
          have handled : (relay.handleMessage arrival).result = .ok false := by
            simp only [Relay.handleMessage, examined]
          simp only [examined, Relay.drop] at handles
          rw [Supply.fault?_handled handled]
          refine ⟨_, _, onward_restless ⟨rfl, same⟩ serves handles rfl rfl (same.counted _ _ _)
            (.reading delay _ ⟨rest, ending, closing⟩ rfl) ?_⟩
          simp [RelayRun.rank, RelayLoop.read]
      | accepted channel body =>
          simp only [examined] at handles
          refine ⟨_, _, onward_restless ⟨rfl, same⟩ serves handles rfl rfl same
            (.relaying delay _ ⟨rest, ending, closing⟩ arrival channel body rfl rfl examined) ?_⟩
          simp only [RelayRun.rank, Option.map_some, Option.getD_some, List.length_cons]
          omega
      | failed fault =>
          have broken : (relay.handleMessage arrival).result = .error fault := by
            simp only [Relay.handleMessage, examined]
          simp only [examined] at handles
          rw [Supply.fault?_broken broken]
          refine ⟨_, _, onward_restless ⟨rfl, same⟩ serves handles rfl rfl same
            (.closing delay _ ⟨rest, ending, closing⟩ (some fault) rfl) ?_⟩
          simp [RelayRun.rank, RelayLoop.close]

omit running in
theorem relaying_onward {supply : Supply} {channel : Channel} {body : Json}
    (stream : outlook.stream = some supply) (inHand : outlook.inHand = some arrival)
    (accepted : relay.examine arrival.channel arrival.raw = .accepted channel body) :
    ∃ next later, Onward relay ⟨⟨current, ⟨delay, .relaying channel⟩, none, history⟩, outlook⟩ delay
      (Supply.fault? relay { supply with arrivals := arrival :: supply.arrivals } ::
        outlook.sessions relay) next later := by
  obtain ⟨coming, bringing, held⟩ := outlook
  obtain rfl : bringing = _ := stream
  obtain rfl : held = _ := inHand
  obtain ⟨rest, ending, closing⟩ := supply
  have serves : Outlook.serve ⟨coming, some ⟨rest, ending, closing⟩, some arrival⟩
      (.relaying channel) =
        some (arrival.outcome, ⟨coming, some ⟨rest, ending, closing⟩, some arrival⟩) := rfl
  have relays : RelayLoop.react current ⟨delay, .relaying channel⟩ arrival.outcome =
      RelayLoop.relayed current ⟨delay, .relaying channel⟩ channel arrival.outcome := rfl
  cases answer : arrival.answer with
  | ok count =>
      have handled : (relay.handleMessage arrival).result = .ok true := by
        simp only [Relay.handleMessage, accepted, answer, Relay.settle]
      have outcome : arrival.outcome = .ok (.count count) := by rw [Arrival.outcome, answer]
      rw [outcome] at serves relays
      simp only [RelayLoop.relayed, Relay.settle] at relays
      rw [Supply.fault?_handled handled]
      refine ⟨_, _, onward_restless ⟨rfl, same⟩ serves relays rfl rfl (same.counted _ _ _)
        (.reading delay _ ⟨rest, ending, closing⟩ rfl) ?_⟩
      simp [RelayRun.rank, RelayLoop.read]
  | error fault =>
      have outcome : arrival.outcome = .error (.fault fault) := by rw [Arrival.outcome, answer]
      rw [outcome] at serves relays
      by_cases ordinary : fault.isOrdinary = true
      · have handled : (relay.handleMessage arrival).result = .ok false := by
          simp only [Relay.handleMessage, accepted, answer, ordinary, Relay.settle, ↓reduceIte]
        simp only [RelayLoop.relayed, ordinary, Relay.settle, ↓reduceIte] at relays
        rw [Supply.fault?_handled handled]
        refine ⟨_, _, onward_restless ⟨rfl, same⟩ serves relays rfl rfl (same.counted _ _ _)
          (.reading delay _ ⟨rest, ending, closing⟩ rfl) ?_⟩
        simp [RelayRun.rank, RelayLoop.read]
      · have broken : (relay.handleMessage arrival).result = .error fault := by
          simp only [Relay.handleMessage, accepted, answer, ordinary, Bool.false_eq_true,
            ↓reduceIte]
        simp only [RelayLoop.relayed, ordinary, Bool.false_eq_true, ↓reduceIte] at relays
        rw [Supply.fault?_broken broken]
        refine ⟨_, _, onward_restless ⟨rfl, same⟩ serves relays rfl rfl same
          (.closing delay _ ⟨rest, ending, closing⟩ (some fault) rfl) ?_⟩
        simp [RelayRun.rank, RelayLoop.close]

omit running same in
theorem react_closing (closing ending : Option Fault) :
    RelayLoop.react current ⟨delay, .closing (endingOf ending)⟩ (endOf closing) =
      match closing.or ending with
      | some fault => RelayLoop.fail current ⟨delay, .closing (endingOf ending)⟩ fault
      | none => RelayLoop.rest current ⟨delay, .closing (endingOf ending)⟩ := by
  cases closing with
  | some fault => rfl
  | none => cases ending <;> rfl

theorem closing_onward {supply : Supply} {ending : Option Fault}
    (stream : outlook.stream = some supply) :
    let run : RelayRun := ⟨⟨current, ⟨delay, .closing (endingOf ending)⟩, none, history⟩, outlook⟩
    let endings := supply.closing.or ending :: outlook.sessions relay
    (∃ next later, Onward relay run delay endings next later) ∨ Ends run endings := by
  obtain ⟨coming, bringing, inHand⟩ := outlook
  obtain rfl : bringing = _ := stream
  intro run endings
  have serves : run.outlook.serve run.watch.loop.point = some (endOf supply.closing, run.outlook) :=
    rfl
  have lower : weight run.outlook.attempts + 2 < run.rank := by simp [RelayRun.rank, run]
  have reacts := @react_closing current delay supply.closing ending
  cases ends : supply.closing.or ending with
  | none =>
      rw [ends] at reacts
      obtain ⟨rests, alike, point⟩ := rest_rest running same _
      exact .inl ⟨_, _, onward_rest ⟨rfl, same⟩ serves reacts (congrArg (· :: _) ends) rests alike
        point lower⟩
  | some fault =>
      rw [ends] at reacts
      by_cases ordinary : fault.isOrdinary = false
      · exact .inr (ends_uncaught rfl serves reacts ordinary (ends ▸ List.mem_cons_self))
      · obtain ⟨rests, alike, point⟩ := fail_rest running same _
          (Bool.eq_true_of_not_eq_false ordinary)
        exact .inl ⟨_, _, onward_rest ⟨rfl, same⟩ serves reacts (congrArg (· :: _) ends) rests alike
          point lower⟩

end

variable {run : RelayRun}

theorem advance (running : relay.running = true)
    (h : Foretells relay run.watch.loop run.outlook delay endings) (going : Going relay run.watch) :
    (run.advance = run ∧ run.rest? = none ∧ endings = []) ∨
      (∃ next later, Onward relay run delay endings next later) ∨ Ends run endings := by
  obtain ⟨⟨current, loop, finished, history⟩, outlook⟩ := run
  obtain ⟨unfinished, same⟩ := going
  obtain rfl : finished = none := unfinished
  dsimp only at h same
  cases h with
  | opening => exact .inr (.inl ⟨_, _, opening_onward running same⟩)
  | pausing old => exact .inr (.inl ⟨_, _, pausing_onward running same old⟩)
  | asking => exact .inr (asking_onward running same)
  | waiting _ _ silent =>
      refine .inl ⟨?_, ?_, rfl⟩
      · simp only [RelayRun.advance, Outlook.serve, silent]
      · simp only [RelayRun.rest?, Outlook.serve, silent, Option.bind_none]
  | reading _ _ supply stream => exact .inr (.inl (reading_onward running same stream))
  | relaying _ _ supply arrival channel body stream inHand accepted =>
      exact .inr (.inl (relaying_onward same stream inHand accepted))
  | closing _ _ supply ending stream => exact .inr (closing_onward running same stream)

end Foretells

/-! ## Runs -/

namespace RelayRun

variable {attempts : List Attempt}

def endingsOf (relay : Relay) (attempts : List Attempt) : List (Option Fault) :=
  attempts.map (Attempt.fault? relay)

/-- What is foretold and what has been rested together are the rests of all attempts. -/
structure Kept (relay : Relay) (attempts : List Attempt) (n : Nat) (delay : Seconds)
    (later : List (Option Fault)) : Prop where
  foretells : Foretells relay (after relay attempts n).watch.loop (after relay attempts n).outlook
    delay later
  going : Going relay (after relay attempts n).watch
  rested : restsBy relay attempts n ++ rests relay delay later =
    rests relay relay.reconnectDelay (endingsOf relay attempts)
  fewer : later <:+ endingsOf relay attempts

theorem finished_advance {run : RelayRun} (h : run.watch.finished.isSome) :
    run.advance.watch.finished.isSome := by
  unfold advance
  split
  · exact Watch.finished_answer h _
  · exact h

theorem restsBy_succ (n : Nat) : restsBy relay attempts (n + 1) =
    restsBy relay attempts n ++ (after relay attempts n).rest?.toList := by
  rw [restsBy, List.range_succ, List.filterMap_append]
  rfl

theorem restsBy_mono {n later : Nat} (h : n ≤ later) :
    restsBy relay attempts n <+: restsBy relay attempts later := by
  induction later, h using Nat.le_induction with
  | base => exact List.prefix_rfl
  | succ later _ ih =>
      rw [restsBy_succ]
      exact ih.trans (List.prefix_append _ _)

section

variable (running : relay.running = true)

include running

theorem Kept.succ {n : Nat} {delay : Seconds} {later : List (Option Fault)}
    (h : Kept relay attempts n delay later) :
    (after relay attempts (n + 1) = after relay attempts n ∧ later = [] ∧
        Kept relay attempts (n + 1) delay later) ∨
      (∃ next rest, Kept relay attempts (n + 1) next rest ∧
        (after relay attempts (n + 1)).rank < (after relay attempts n).rank) ∨
      Ends (after relay attempts n) later := by
  rcases h.foretells.advance running h.going with
    ⟨fixed, restless, done⟩ | ⟨next, rest, onward⟩ | ends
  · have same : after relay attempts (n + 1) = after relay attempts n := by
      rw [after_succ, fixed]
    refine .inl ⟨same, done, ?_, ?_, ?_, h.fewer⟩
    · rw [same]
      exact h.foretells
    · rw [same]
      exact h.going
    · rw [restsBy_succ, restless, Option.toList_none, List.append_nil]
      exact h.rested
  · refine .inr (.inl ⟨next, rest, ⟨?_, ?_, ?_, onward.fewer.trans h.fewer⟩, ?_⟩)
    · rw [after_succ]
      exact onward.foretells
    · rw [after_succ]
      exact onward.going
    · rw [restsBy_succ, List.append_assoc, onward.rested]
      exact h.rested
    · rw [after_succ]
      exact onward.lower
  · exact .inr (.inr ends)

omit running in
theorem kept_zero : Kept relay attempts 0 relay.reconnectDelay (endingsOf relay attempts) :=
  ⟨.opening relay.reconnectDelay ⟨attempts, none, none⟩, ⟨rfl, .refl relay⟩, rfl, List.suffix_rfl⟩

theorem kept_or_finished (n : Nat) : (∃ delay later, Kept relay attempts n delay later) ∨
    ((after relay attempts n).watch.finished.isSome ∧
      restsBy relay attempts n <+: rests relay relay.reconnectDelay (endingsOf relay attempts)) := by
  induction n with
  | zero => exact .inl ⟨_, _, kept_zero⟩
  | succ n ih =>
      rcases ih with ⟨delay, later, kept⟩ | ⟨finished, rested⟩
      · rcases kept.succ running with ⟨-, -, kept⟩ | ⟨next, rest, kept, -⟩ | ends
        · exact .inl ⟨_, _, kept⟩
        · exact .inl ⟨_, _, kept⟩
        · refine .inr ⟨?_, ?_⟩
          · rw [after_succ]
            exact ends.finished
          · rw [restsBy_succ, ends.restless, Option.toList_none, List.append_nil]
            exact ⟨_, kept.rested⟩
      · have restless : (after relay attempts n).rest? = none := by
          obtain ⟨last, same⟩ := Option.isSome_iff_exists.mp finished
          rw [rest?, same]
        refine .inr ⟨?_, ?_⟩
        · rw [after_succ]
          exact finished_advance finished
        · rw [restsBy_succ, restless, Option.toList_none, List.append_nil]
          exact rested

theorem restsBy_prefix_rests (n : Nat) : restsBy relay attempts n <+:
    rests relay relay.reconnectDelay (endingsOf relay attempts) := by
  rcases kept_or_finished running n with ⟨delay, later, kept⟩ | ⟨-, rested⟩
  · exact ⟨_, kept.rested⟩
  · exact rested

theorem restsBy_getElem? {n i : Nat} {rest : Rest}
    (brought : (restsBy relay attempts n)[i]? = some rest) :
    (rests relay relay.reconnectDelay (endingsOf relay attempts))[i]? = some rest := by
  obtain ⟨more, split⟩ := restsBy_prefix_rests running n
  obtain ⟨bound, -⟩ := List.getElem?_eq_some_iff.mp brought
  rw [← split, List.getElem?_append_left bound, brought]

variable (ordinary : ∀ fault, some fault ∈ endingsOf relay attempts → fault.isOrdinary = true)

include ordinary

theorem Kept.onward {n : Nat} {delay : Seconds} {later : List (Option Fault)}
    (h : Kept relay attempts n delay later) :
    (after relay attempts (n + 1) = after relay attempts n ∧ later = [] ∧
        Kept relay attempts (n + 1) delay later) ∨
      ∃ next rest, Kept relay attempts (n + 1) next rest ∧
        (after relay attempts (n + 1)).rank < (after relay attempts n).rank := by
  rcases h.succ running with done | onward | ends
  · exact .inl done
  · exact .inr onward
  · obtain ⟨fault, listed, uncaught⟩ := ends.uncaught
    cases uncaught.symm.trans (ordinary fault (h.fewer.subset listed))

theorem exists_rested :
    ∃ n, restsBy relay attempts n =
      rests relay relay.reconnectDelay (endingsOf relay attempts) := by
  -- Each outcome lowers the rank until no session is foretold any more.
  have reaches (bound : Nat) : ∀ n delay later, Kept relay attempts n delay later →
      (after relay attempts n).rank < bound →
        ∃ n, restsBy relay attempts n =
          rests relay relay.reconnectDelay (endingsOf relay attempts) := by
    induction bound with
    | zero => exact fun n _ _ _ low => absurd low (Nat.not_lt_zero _)
    | succ bound ih =>
        intro n delay later kept low
        rcases kept.onward running ordinary with ⟨-, rfl, -⟩ | ⟨next, rest, kept, lower⟩
        · exact ⟨n, by rw [← kept.rested, rests, List.append_nil]⟩
        · exact ih (n + 1) next rest kept (by omega)
  exact reaches _ 0 _ _ (kept_zero) (Nat.lt_succ_self _)

end

end RelayRun

/-! ## How long the rests are -/

def streak (endings : List (Option Fault)) : Nat :=
  (endings.reverse.takeWhile Option.isSome).length

theorem streak_failed (endings : List (Option Fault)) (fault : Fault) :
    streak (endings ++ [some fault]) = streak endings + 1 := by
  simp [streak]

theorem streak_ended (endings : List (Option Fault)) : streak (endings ++ [none]) = 0 := by
  simp [streak]

def delayFrom (relay : Relay) (delay : Seconds) (endings : List (Option Fault)) : Seconds :=
  endings.foldl (nextDelay relay) delay

theorem rests_getElem? {i : Nat} {rest : Rest}
    (h : (rests relay delay endings)[i]? = some rest) :
    ∃ ending, endings[i]? = some ending ∧
      rest = restAfter relay (delayFrom relay delay (endings.take i)) ending := by
  induction endings generalizing delay i with
  | nil => cases h
  | cons ending later ih =>
      cases i with
      | zero =>
          cases h
          exact ⟨ending, rfl, rfl⟩
      | succ i => exact ih h

theorem length_rests : (rests relay delay endings).length = endings.length := by
  induction endings generalizing delay with
  | nil => rfl
  | cons ending later ih => exact congrArg Nat.succ ih

theorem min_doubled {v w : ℚ} (above : 0 < w) : min (2 * min v w) w = min (2 * v) w := by
  rcases le_total v w with below | beyond
  · rw [min_eq_left below]
  · rw [min_eq_right beyond, min_eq_right (by linarith), min_eq_right (by linarith)]

variable {d m : ℚ}

theorem delayFrom_lasts (first : relay.reconnectDelay.Lasts d)
    (ceiling : relay.maxReconnectDelay.Lasts m) (above : 0 < d) (within : d ≤ m)
    (exact : relay.reconnectDelay.ExactBelow m) (endings : List (Option Fault)) :
    (delayFrom relay relay.reconnectDelay endings).Lasts (min (d * 2 ^ streak endings) m) ∧
      (delayFrom relay relay.reconnectDelay endings).ExactBelow m := by
  have initial : min (d * 2 ^ 0) m = d := by rw [pow_zero, mul_one, min_eq_left within]
  induction endings using List.reverseRecOn with
  | nil =>
      have none_failed : streak [] = 0 := rfl
      rw [none_failed, initial]
      exact ⟨first, exact⟩
  | append_singleton endings ending ih =>
      rw [delayFrom, List.foldl_append]
      cases ending with
      | none =>
          rw [streak_ended, initial]
          exact ⟨first, exact⟩
      | some fault =>
          obtain ⟨lasts, still⟩ := ih
          have positive : 0 < min (d * 2 ^ streak endings) m :=
            lt_min (mul_pos above (pow_pos two_pos _)) (above.trans_le within)
          have doubled := lasts.double_least ceiling positive still
          rw [min_doubled (above.trans_le within), mul_left_comm, ← pow_succ'] at doubled
          rw [streak_failed]
          exact doubled

namespace RelayRun

/-- The pause after a clean end is the first delay. After a failure it is that delay doubled for
each failure in a row before it, up to the ceiling, and it is logged with the failure. Every attempt
has its pause. -/
theorem backs_off (relay : Relay) (task : Nat) {attempts : List Attempt}
    (first : relay.reconnectDelay.Lasts d) (ceiling : relay.maxReconnectDelay.Lasts m)
    (above : 0 < d) (within : d ≤ m) (exact : relay.reconnectDelay.ExactBelow m)
    (ordinary : ∀ fault, some fault ∈ endingsOf relay attempts → fault.isOrdinary = true) :
    let started := (relay.start task).1
    let endings := endingsOf relay attempts
    (∀ n i (rest : Rest), (restsBy started attempts n)[i]? = some rest →
      ∃ ending, endings[i]? = some ending ∧
        (ending = none → rest.length.Lasts d) ∧
        ∀ fault, ending = some fault →
          rest.length.Lasts (min (d * 2 ^ (streak (endings.take (i + 1)) - 1)) m) ∧
            rest.logs = [RelayLoop.streamError fault rest.length]) ∧
    ∃ n, ∀ later, n ≤ later → (restsBy started attempts later).length = attempts.length := by
  intro started endings
  have running : started.running = true := rfl
  have channels : started.channels = relay.channels := rfl
  have same : endingsOf started attempts = endings :=
    List.map_congr_left fun attempt _ => attempt.fault?_channels channels
  have caught : ∀ fault, some fault ∈ endingsOf started attempts → fault.isOrdinary = true := by
    rw [same]
    exact ordinary
  refine ⟨fun n i rest brought => ?_, ?_⟩
  · have planned : (rests started started.reconnectDelay endings)[i]? = some rest := by
      rw [← same]
      exact restsBy_getElem? running brought
    obtain ⟨ending, found, rfl⟩ := rests_getElem? planned
    obtain ⟨lasts, -⟩ := @delayFrom_lasts started _ _ first ceiling above within exact
      (endings.take i)
    refine ⟨ending, found, ?_, ?_⟩
    · rintro rfl
      exact first
    · rintro fault rfl
      have counted : streak (endings.take (i + 1)) = streak (endings.take i) + 1 := by
        rw [List.take_add_one, found, Option.toList_some, streak_failed]
      rw [counted, Nat.add_sub_cancel]
      exact ⟨lasts, rfl⟩
  · obtain ⟨n, all⟩ := exists_rested running caught
    refine ⟨n, fun later h => ?_⟩
    have length : (rests started started.reconnectDelay (endingsOf started attempts)).length =
        attempts.length := by
      rw [length_rests, endingsOf, List.length_map]
    have least := (@restsBy_mono started attempts _ _ h).length_le
    have most := (@restsBy_prefix_rests started attempts running later).length_le
    rw [all, length] at least
    rw [length] at most
    exact Nat.le_antisymm most least

def usual : Relay := Relay.idle Channel.all Relay.defaultDelay Relay.defaultMaxDelay

theorem defaultDelay_lasts : Relay.defaultDelay.Lasts 2 := by
  have same : Relay.defaultDelay = .float (.finite false 4503599627370496 (-51)) := by decide
  have value : ((4503599627370496 : Nat) : ℚ) * 2 ^ (-51 : Int) = 2 := by norm_num
  rw [same, ← value]
  exact .float ⟨by decide, by decide, by decide⟩

theorem defaultMaxDelay_lasts : Relay.defaultMaxDelay.Lasts 60 := by
  have same : Relay.defaultMaxDelay = .float (.finite false 8444249301319680 (-47)) := by decide
  have value : ((8444249301319680 : Nat) : ℚ) * 2 ^ (-47 : Int) = 60 := by norm_num
  rw [same, ← value]
  exact .float ⟨by decide, by decide, by decide⟩

theorem endingsOf_bumpy : endingsOf usual bumpy =
    [none, some (.bus (.closed none)), some .infinityToInteger, none] := by
  rfl

theorem backs_off_bumpy :
    usual.reconnectDelay.Lasts 2 ∧ usual.maxReconnectDelay.Lasts 60 ∧
      usual.reconnectDelay.ExactBelow 60 ∧
      ∃ n rest, (restsBy (usual.start 0).1 bumpy n)[2]? = some rest ∧ rest.length.Lasts 4 ∧
        rest.logs = [RelayLoop.streamError .infinityToInteger rest.length] := by
  have range : (60 : ℚ) < 2 ^ (1024 : Int) :=
    calc (60 : ℚ) < 2 ^ (6 : Int) := by norm_num
      _ ≤ 2 ^ (1024 : Int) := zpow_le_zpow_right₀ one_le_two (by decide)
  have exact : usual.reconnectDelay.ExactBelow 60 := .inr range
  have ordinary : ∀ fault, some fault ∈ endingsOf usual bumpy → fault.isOrdinary = true := by
    intro fault listed
    simp only [endingsOf_bumpy, List.mem_cons, List.not_mem_nil, or_false, reduceCtorEq,
      Option.some.injEq, false_or] at listed
    rcases listed with rfl | rfl <;> rfl
  obtain ⟨scheduled, n, all⟩ := backs_off usual 0 defaultDelay_lasts defaultMaxDelay_lasts
    (by norm_num) (by norm_num) exact ordinary
  have count : (restsBy (usual.start 0).1 bumpy n).length = 4 := all n (Nat.le_refl n)
  have third : (restsBy (usual.start 0).1 bumpy n)[2]? =
      some (restsBy (usual.start 0).1 bumpy n)[2] := List.getElem?_eq_getElem _
  obtain ⟨ending, found, -, failed⟩ := scheduled n 2 _ third
  rw [endingsOf_bumpy] at found failed
  cases found
  obtain ⟨lasts, logged⟩ := failed _ rfl
  have streak_two : streak ([none, some (.bus (.closed none)), some .infinityToInteger, none].take
      (2 + 1)) = 2 := rfl
  have length : min ((2 : ℚ) * 2 ^ (2 - 1)) 60 = 4 := by norm_num
  rw [streak_two, length] at lasts
  exact ⟨defaultDelay_lasts, defaultMaxDelay_lasts, exact, n, _, third, lasts, logged⟩

end RelayRun

end LedgerFeed
