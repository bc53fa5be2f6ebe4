import Mathlib.Logic.Function.Iterate
import LedgerFeed.Proofs.Relay.Attempts

namespace LedgerFeed

open Attempt

/-! ## Situations -/

def endingOf : Option Fault → StreamEnding
  | some fault => .failed fault
  | none => .ended

theorem RelayLoop.react_endOf (relay : Relay) (delay : Seconds) (ending : Option Fault) :
    RelayLoop.react relay ⟨delay, .reading⟩ (endOf ending) =
      RelayLoop.close relay ⟨delay, .reading⟩ (endingOf ending) [] := by
  cases ending <;> rfl

/-- What a run is like between two outcomes, with the attempts that are over. -/
inductive Situation (relay : Relay) (attempts : List Attempt) : RelayRun → Prop
  | opening (outlook : Outlook) (split : attempts = outlook.attempts) :
      Situation relay attempts ⟨Watch.start relay, outlook⟩
  | asking (past : List Attempt) (outlook : Outlook) (split : attempts = past ++ outlook.attempts) :
      Situation relay attempts
        ⟨⟨relayAfter relay past, ⟨delayAfter relay past, .opened⟩, none,
          history relay past ++ [.asks]⟩, outlook⟩
  | waiting (outlook : Outlook) (done : outlook.attempts = []) (silent : outlook.stream = none) :
      Situation relay attempts
        ⟨⟨relayAfter relay attempts, ⟨delayAfter relay attempts, .reading⟩, none,
          history relay attempts ++ [.asks, .obtains]⟩, outlook⟩
  | reading (past : List Attempt) (supply : Supply) (taken rest : List Arrival) (outlook : Outlook)
      (split : attempts = past ++ .streamed supply :: outlook.attempts)
      (arrivals : supply.arrivals = taken ++ rest)
      (stream : outlook.stream = some ⟨rest, supply.ending, supply.closing⟩) :
      Situation relay attempts
        ⟨⟨(relayAfter relay past).handleAll taken, ⟨delayAfter relay past, .reading⟩, none,
          history relay past ++ .asks :: .obtains :: taken.map arrived⟩, outlook⟩
  | relaying (past : List Attempt) (supply : Supply) (taken rest : List Arrival) (arrival : Arrival)
      (channel : Channel) (outlook : Outlook)
      (split : attempts = past ++ .streamed supply :: outlook.attempts)
      (arrivals : supply.arrivals = taken ++ arrival :: rest)
      (stream : outlook.stream = some ⟨rest, supply.ending, supply.closing⟩)
      (inHand : outlook.inHand = some arrival)
      (settles : ∃ logs, ∀ loop, RelayLoop.relayed ((relayAfter relay past).handleAll taken) loop
        channel arrival.outcome =
          RelayLoop.read ((relayAfter relay past).handleAll (taken ++ [arrival])) loop logs) :
      Situation relay attempts
        ⟨⟨(relayAfter relay past).handleAll taken, ⟨delayAfter relay past, .relaying channel⟩, none,
          history relay past ++ .asks :: .obtains :: (taken ++ [arrival]).map arrived⟩, outlook⟩
  | closing (past : List Attempt) (supply : Supply) (outlook : Outlook)
      (split : attempts = past ++ .streamed supply :: outlook.attempts)
      (stream : outlook.stream = some ⟨[], supply.ending, supply.closing⟩) :
      Situation relay attempts
        ⟨⟨(relayAfter relay past).handleAll supply.arrivals,
          ⟨delayAfter relay past, .closing (endingOf supply.ending)⟩, none,
          history relay past ++ (Attempt.streamed supply).events⟩, outlook⟩
  | pausing (past : List Attempt) (delay : Seconds) (outlook : Outlook)
      (split : attempts = past ++ outlook.attempts) :
      Situation relay attempts
        ⟨⟨relayAfter relay past, ⟨delay, .pausing (delayAfter relay past)⟩, none,
          history relay past⟩, outlook⟩

def weight : List Attempt → Nat
  | [] => 0
  | attempt :: rest => 2 * attempt.arrivals.length + 4 + weight rest

namespace RelayRun

theorem advance_eq (run : RelayRun) {outcome : Outcome} {outlook : Outlook} {reaction : Reaction}
    (serves : run.outlook.serve run.watch.loop.point = some (outcome, outlook))
    (unfinished : run.watch.finished = none)
    (reacts : run.watch.loop.react run.watch.relay outcome = reaction) :
    run.advance =
      ⟨⟨reaction.relay, reaction.loop, reaction.request.outcome?,
        run.watch.history ++ (run.watch.loop.point.events outcome reaction ++
          reaction.request.events)⟩, outlook⟩ := by
  subst reacts
  rw [advance, serves]
  dsimp only
  rw [Watch.answer_unfinished unfinished]
  rfl

def rank (run : RelayRun) : Nat :=
  weight run.outlook.attempts +
    match run.watch.loop.point with
    | .opening | .pausing _ => 2
    | .opened => 1
    | .reading => (run.outlook.stream.map fun supply => 2 * supply.arrivals.length + 4).getD 0
    | .relaying _ => (run.outlook.stream.map fun supply => 2 * supply.arrivals.length + 5).getD 0
    | .closing _ => 3

end RelayRun

namespace Situation

variable {relay : Relay} {attempts past : List Attempt} {attempt : Attempt} {run : RelayRun}

structure Over (relay : Relay) (past : List Attempt) (attempt : Attempt) (reaction : Reaction) :
    Prop where
  settles : reaction.relay = attempt.settle (relayAfter relay past)
  point : reaction.loop.point = .pausing (attempt.nextDelay relay (delayAfter relay past))
  request : reaction.request = .pause (attempt.pause relay (delayAfter relay past))

theorem advance_over {outcome : Outcome} {outlook : Outlook}
    (ends : Over relay past attempt (run.watch.loop.react run.watch.relay outcome))
    (serves : run.outlook.serve run.watch.loop.point = some (outcome, outlook))
    (unfinished : run.watch.finished = none)
    (before : run.watch.history = history relay past ++ attempt.events)
    (silent : ∀ reaction, run.watch.loop.point.events outcome reaction = [])
    (split : attempts = past ++ attempt :: outlook.attempts)
    (lower : weight outlook.attempts + 2 < run.rank) :
    Situation relay attempts run.advance ∧ run.advance.rank < run.rank := by
  rw [run.advance_eq serves unfinished rfl, silent, before]
  generalize run.watch.loop.react run.watch.relay outcome = reaction at ends
  obtain ⟨relay', ⟨delay, point⟩, logs, request⟩ := reaction
  obtain ⟨rfl, rfl, rfl⟩ := ends
  constructor
  · have paused : Situation relay attempts _ := .pausing (past ++ [attempt]) delay outlook
      (by rw [split, List.append_assoc, List.singleton_append])
    rw [relayAfter_snoc, delayAfter_snoc, history_snoc, ← List.append_assoc] at paused
    exact paused
  · exact lower

section

variable (running : relay.running = true)

include running

theorem fail_over (fails : attempt.fails = true) {fault : Fault}
    (ordinary : fault.isOrdinary = true) (point : LoopPoint) :
    Over relay past attempt (RelayLoop.fail ((relayAfter relay past).handleAll attempt.arrivals)
      ⟨delayAfter relay past, point⟩ fault) := by
  have same := handleAll_alike relay past attempt.arrivals
  rw [RelayLoop.fail_running (same.running.trans running) _ ordinary]
  refine ⟨settle_failed _ fails, ?_, ?_⟩
  · rw [nextDelay, if_pos fails, same.maxReconnectDelay]
  · rw [pause, if_pos fails]

theorem rest_over (ends : attempt.fails = false) (point : LoopPoint) :
    Over relay past attempt (RelayLoop.rest ((relayAfter relay past).handleAll attempt.arrivals)
      ⟨delayAfter relay past, point⟩) := by
  have same := handleAll_alike relay past attempt.arrivals
  rw [RelayLoop.rest_running (same.running.trans running)]
  refine ⟨settle_ended _ ends, ?_, ?_⟩
  · rw [nextDelay, ends, same.reconnectDelay]
    rfl
  · rw [pause, ends, same.reconnectDelay]
    rfl

end

variable (running : relay.running = true)
  (ordinary : ∀ attempt ∈ attempts, attempt.Ordinary)
  (handled : ∀ attempt ∈ attempts, ∀ arrival ∈ attempt.arrivals,
    ∃ result, (relay.handleMessage arrival).result = .ok result)

def Waits (relay : Relay) (attempts : List Attempt) (run : RelayRun) : Prop :=
  run.watch = ⟨relayAfter relay attempts, ⟨delayAfter relay attempts, .reading⟩, none,
    history relay attempts ++ [.asks, .obtains]⟩

theorem of_watch {watch : Watch} {outlook : Outlook} {settled : Relay} {events : List LoopEvent}
    (h : Situation relay attempts ⟨{ watch with relay := settled, history := events }, outlook⟩)
    (relays : watch.relay = settled) (histories : watch.history = events) :
    Situation relay attempts ⟨watch, outlook⟩ := by
  subst relays histories
  exact h

theorem relaying_advance {past : List Attempt} {supply : Supply} {taken rest : List Arrival}
    {arrival : Arrival} {channel : Channel} {outlook : Outlook}
    (split : attempts = past ++ .streamed supply :: outlook.attempts)
    (arrivals : supply.arrivals = taken ++ arrival :: rest)
    (stream : outlook.stream = some ⟨rest, supply.ending, supply.closing⟩)
    (inHand : outlook.inHand = some arrival)
    (settles : ∃ logs, ∀ loop, RelayLoop.relayed ((relayAfter relay past).handleAll taken) loop
      channel arrival.outcome =
        RelayLoop.read ((relayAfter relay past).handleAll (taken ++ [arrival])) loop logs) :
    let run : RelayRun := ⟨⟨(relayAfter relay past).handleAll taken,
      ⟨delayAfter relay past, .relaying channel⟩, none,
      history relay past ++ .asks :: .obtains :: (taken ++ [arrival]).map arrived⟩, outlook⟩
    Situation relay attempts run.advance ∧ run.advance.rank < run.rank := by
  obtain ⟨coming, bringing, held⟩ := outlook
  obtain rfl : bringing = _ := stream
  obtain rfl : held = _ := inHand
  obtain ⟨logs, settles⟩ := settles
  intro run
  have after : supply.arrivals = (taken ++ [arrival]) ++ rest := by simp [arrivals]
  have reacts : run.watch.loop.react run.watch.relay arrival.outcome = _ :=
    settles run.watch.loop
  rw [run.advance_eq rfl rfl reacts]
  refine ⟨of_watch (.reading past supply (taken ++ [arrival]) rest _ split after rfl) rfl ?_, ?_⟩
  · exact List.append_nil _
  · simp [RelayRun.rank, run, RelayLoop.read]

include running

theorem opening_advance {outlook : Outlook} (split : attempts = outlook.attempts) :
    let run : RelayRun := ⟨Watch.start relay, outlook⟩
    Situation relay attempts run.advance ∧ run.advance.rank < run.rank := by
  intro run
  rw [run.advance_eq rfl rfl (RelayLoop.openStream_running running _)]
  refine ⟨.asking [] outlook split, ?_⟩
  simp [RelayRun.rank, run, Watch.start, RelayLoop.start]

theorem pausing_advance {past : List Attempt} {delay : Seconds} {outlook : Outlook}
    (split : attempts = past ++ outlook.attempts) :
    let run : RelayRun := ⟨⟨relayAfter relay past, ⟨delay, .pausing (delayAfter relay past)⟩, none,
      history relay past⟩, outlook⟩
    Situation relay attempts run.advance ∧ run.advance.rank < run.rank := by
  have same := relayAfter_alike relay past
  intro run
  rw [run.advance_eq rfl rfl (RelayLoop.openStream_running (same.running.trans running) _)]
  refine ⟨.asking past outlook split, ?_⟩
  simp [RelayRun.rank, run]

include ordinary in
theorem asking_advance {past : List Attempt} {outlook : Outlook}
    (split : attempts = past ++ outlook.attempts) :
    let run : RelayRun := ⟨⟨relayAfter relay past, ⟨delayAfter relay past, .opened⟩, none,
      history relay past ++ [.asks]⟩, outlook⟩
    Situation relay attempts run.advance ∧ run.advance.rank < run.rank := by
  obtain ⟨coming, stream, inHand⟩ := outlook
  intro run
  cases coming with
  | nil =>
      obtain rfl : attempts = past := by simpa using split
      have reads : run.watch.loop.react run.watch.relay .nothing =
          RelayLoop.read run.watch.relay run.watch.loop [] := rfl
      rw [run.advance_eq rfl rfl reads]
      refine ⟨of_watch (.waiting ⟨[], none, inHand⟩ rfl rfl) rfl ?_, ?_⟩
      · exact List.append_assoc _ _ _
      · simp [RelayRun.rank, run, RelayLoop.read]
  | cons attempt rest =>
      cases attempt with
      | refused fault =>
          have caught : fault.isOrdinary = true := ordinary (.refused fault) (by rw [split]; simp)
          have ends : Over relay past (.refused fault)
              (run.watch.loop.react run.watch.relay (.error (.fault fault))) :=
            fail_over running rfl caught .opened
          refine advance_over ends rfl rfl rfl (fun _ => rfl) split ?_
          simp only [RelayRun.rank, run, weight]
          omega
      | streamed supply =>
          have reads : run.watch.loop.react run.watch.relay .nothing =
              RelayLoop.read run.watch.relay run.watch.loop [] := rfl
          rw [run.advance_eq rfl rfl reads]
          refine ⟨of_watch (.reading past supply [] supply.arrivals
            ⟨rest, some supply, inHand⟩ split rfl rfl) rfl ?_, ?_⟩
          · exact List.append_assoc _ _ _
          · simp only [RelayRun.rank, run, weight, RelayLoop.read, arrivals, Option.map_some,
              Option.getD_some]
            omega

include handled in
theorem reading_advance {past : List Attempt} {supply : Supply} {taken rest : List Arrival}
    {outlook : Outlook} (split : attempts = past ++ .streamed supply :: outlook.attempts)
    (arrivals : supply.arrivals = taken ++ rest)
    (stream : outlook.stream = some ⟨rest, supply.ending, supply.closing⟩) :
    let run : RelayRun := ⟨⟨(relayAfter relay past).handleAll taken,
      ⟨delayAfter relay past, .reading⟩, none,
      history relay past ++ .asks :: .obtains :: taken.map arrived⟩, outlook⟩
    Situation relay attempts run.advance ∧ run.advance.rank < run.rank := by
  obtain ⟨coming, bringing, inHand⟩ := outlook
  obtain rfl : bringing = _ := stream
  intro run
  have same := handleAll_alike relay past taken
  -- Without a message the stream is closed; a message is handled at once or broadcast first.
  cases rest with
  | nil =>
      obtain rfl : supply.arrivals = taken := by simpa using arrivals
      have serves : run.outlook.serve run.watch.loop.point =
          some (endOf supply.ending, run.outlook) := rfl
      have closes : run.watch.loop.react run.watch.relay (endOf supply.ending) =
          RelayLoop.close run.watch.relay run.watch.loop (endingOf supply.ending) [] :=
        RelayLoop.react_endOf _ _ _
      have silent (reaction : Reaction) :
          run.watch.loop.point.events (endOf supply.ending) reaction = [] := by
        cases supply.ending <;> rfl
      rw [run.advance_eq serves rfl closes, silent]
      refine ⟨of_watch (.closing past supply run.outlook split rfl) rfl ?_, ?_⟩
      · exact List.append_assoc _ _ _
      · simp [RelayRun.rank, run, RelayLoop.close]
  | cons arrival rest =>
      have listed : Attempt.streamed supply ∈ attempts := by
        rw [split]
        exact List.mem_append_right _ List.mem_cons_self
      obtain ⟨result, ok⟩ := handled _ listed arrival (by rw [Attempt.arrivals, arrivals]; simp)
      rw [← Relay.handleMessage_result same.channels] at ok
      have still : run.watch.relay.running = true := same.running.trans running
      have after : supply.arrivals = (taken ++ [arrival]) ++ rest := by simp [arrivals]
      have noted : run.watch.history ++ [arrived arrival] =
          history relay past ++ .asks :: .obtains :: (taken ++ [arrival]).map arrived := by
        simp [run]
      rcases RelayLoop.handle_arrival still run.watch.loop ok with
        ⟨logs, reads⟩ | ⟨channel, body, broadcasts, logs, settles⟩
      · have reacts := (RelayLoop.react_message rfl _ _).trans reads
        rw [run.advance_eq rfl rfl reacts]
        refine ⟨of_watch (.reading past supply (taken ++ [arrival]) rest ⟨coming, _, some arrival⟩
          split after rfl) ?_ ?_, ?_⟩
        · exact (Relay.handleAll_snoc _ _ _).symm
        · exact noted
        · simp [RelayRun.rank, run, RelayLoop.read]
      · have reacts := (RelayLoop.react_message rfl _ _).trans broadcasts
        rw [run.advance_eq rfl rfl reacts]
        refine ⟨of_watch (.relaying past supply taken rest arrival channel
          ⟨coming, _, some arrival⟩ split arrivals rfl rfl ⟨logs, ?_⟩) rfl ?_, ?_⟩
        · rw [Relay.handleAll_snoc]
          exact settles
        · exact noted
        · simp [RelayRun.rank, run]
          omega

include ordinary in
theorem closing_advance {past : List Attempt} {supply : Supply} {outlook : Outlook}
    (split : attempts = past ++ .streamed supply :: outlook.attempts)
    (stream : outlook.stream = some ⟨[], supply.ending, supply.closing⟩) :
    let run : RelayRun := ⟨⟨(relayAfter relay past).handleAll supply.arrivals,
      ⟨delayAfter relay past, .closing (endingOf supply.ending)⟩, none,
      history relay past ++ (Attempt.streamed supply).events⟩, outlook⟩
    Situation relay attempts run.advance ∧ run.advance.rank < run.rank := by
  obtain ⟨coming, bringing, inHand⟩ := outlook
  obtain rfl : bringing = _ := stream
  intro run
  have caught : (Attempt.streamed supply).Ordinary := ordinary _ (by rw [split]; simp)
  have ends : Over relay past (.streamed supply)
      (run.watch.loop.react run.watch.relay (endOf supply.closing)) := by
    cases closing : supply.closing with
    | some fault =>
        have fails : (Attempt.streamed supply).fails = true := by simp [fails, closing]
        exact fail_over running fails (caught fault (.inr closing)) _
    | none =>
        have closed : run.watch.loop.react run.watch.relay (endOf none) =
            RelayLoop.closed run.watch.relay run.watch.loop (endingOf supply.ending) := rfl
        rw [closed]
        cases ending : supply.ending with
        | some fault =>
            have fails : (Attempt.streamed supply).fails = true := by simp [fails, ending]
            exact fail_over running fails (caught fault (.inl ending)) _
        | none =>
            have ends : (Attempt.streamed supply).fails = false := by simp [fails, ending, closing]
            exact rest_over running ends _
  have silent (reaction : Reaction) :
      run.watch.loop.point.events (endOf supply.closing) reaction = [] := rfl
  refine advance_over ends rfl rfl rfl silent split ?_
  simp [RelayRun.rank, run]

include ordinary handled in
theorem advance (h : Situation relay attempts run) :
    (run.advance = run ∧ Waits relay attempts run) ∨
      (Situation relay attempts run.advance ∧ run.advance.rank < run.rank) := by
  cases h with
  | waiting outlook done silent =>
      refine .inl ⟨?_, rfl⟩
      rw [RelayRun.advance, Outlook.serve, silent]
  | opening outlook split => exact .inr (opening_advance running split)
  | asking past outlook split => exact .inr (asking_advance running ordinary split)
  | reading past supply taken rest outlook split arrivals stream =>
      exact .inr (reading_advance running handled split arrivals stream)
  | relaying past supply taken rest arrival channel outlook split arrivals stream inHand settles =>
      exact .inr (relaying_advance split arrivals stream inHand settles)
  | closing past supply outlook split stream =>
      exact .inr (closing_advance running ordinary split stream)
  | pausing past delay outlook split => exact .inr (pausing_advance running split)

end Situation

/-! ## What has happened -/

def whole (relay : Relay) (attempts : List Attempt) : List LoopEvent :=
  history relay attempts ++ [.asks, .obtains]

theorem part_prefix_whole (relay : Relay) (past : List Attempt) {attempt : Attempt}
    (rest : List Attempt) {events : List LoopEvent} (part : events <+: attempt.events) :
    history relay past ++ events <+: whole relay (past ++ attempt :: rest) := by
  obtain ⟨later, same⟩ := part
  rw [whole, history_append, historyFrom, ← same, List.append_assoc, List.append_assoc,
    List.append_assoc]
  exact (List.prefix_append_right_inj _).mpr (List.prefix_append _ _)

theorem history_prefix_whole (relay : Relay) (past rest : List Attempt) :
    history relay past <+: whole relay (past ++ rest) := by
  rw [whole, history_append, List.append_assoc]
  exact List.prefix_append _ _

theorem asks_prefix_whole (relay : Relay) (past rest : List Attempt) :
    history relay past ++ [.asks] <+: whole relay (past ++ rest) := by
  cases rest with
  | nil =>
      rw [List.append_nil, whole]
      exact (List.prefix_append_right_inj _).mpr ⟨[.obtains], rfl⟩
  | cons attempt rest =>
      refine part_prefix_whole relay past rest ?_
      cases attempt with
      | refused fault => exact List.prefix_refl _
      | streamed supply => exact ⟨_, rfl⟩

namespace Situation

variable {relay : Relay} {attempts : List Attempt} {run : RelayRun}

structure Told (relay : Relay) (attempts : List Attempt) (watch : Watch) : Prop where
  unfinished : watch.finished = none
  history : watch.history <+: whole relay attempts
  reconnects : watch.relay.reconnects =
    relay.reconnects + (attempts.take watch.pauses.length).countP Attempt.fails

theorem told_of {past rest : List Attempt} {watch : Watch} {events : List LoopEvent}
    (split : attempts = past ++ rest) (unfinished : watch.finished = none)
    (happened : watch.history = Attempt.history relay past ++ events)
    (part : Attempt.history relay past ++ events <+: whole relay (past ++ rest))
    (pauseless : events.filterMap LoopEvent.pause? = [])
    (count : watch.relay.reconnects = (relayAfter relay past).reconnects) :
    Told relay attempts watch := by
  subst split
  have pauses : watch.pauses.length = past.length := by
    rw [Watch.pauses, happened, List.filterMap_append, pauseless, List.append_nil]
    exact pauses_historyFrom relay _ past
  refine ⟨unfinished, happened ▸ part, ?_⟩
  rw [count, relayAfter_reconnects, pauses, List.take_left]

theorem told (h : Situation relay attempts run) : Told relay attempts run.watch := by
  cases h with
  | opening outlook split => exact ⟨rfl, List.nil_prefix, rfl⟩
  | asking past outlook split => exact told_of split rfl rfl (asks_prefix_whole relay past _) rfl rfl
  | waiting outlook done silent =>
      have all : whole relay attempts = whole relay (attempts ++ []) := by rw [List.append_nil]
      exact told_of (List.append_nil _).symm rfl rfl (all ▸ List.prefix_refl _) rfl rfl
  | reading past supply taken rest outlook split arrivals stream =>
      refine told_of split rfl rfl (part_prefix_whole relay past _ ?_) (pauses_arrived taken)
        ((relayAfter relay past).handleAll_keeps taken).2
      exact ⟨rest.map arrived ++ [.closes], by simp [events, arrivals]⟩
  | relaying past supply taken rest arrival channel outlook split arrivals stream inHand settles =>
      refine told_of split rfl rfl (part_prefix_whole relay past _ ?_)
        (pauses_arrived (taken ++ [arrival])) ((relayAfter relay past).handleAll_keeps taken).2
      exact ⟨rest.map arrived ++ [.closes], by simp [events, arrivals]⟩
  | closing past supply outlook split stream =>
      exact told_of split rfl rfl (part_prefix_whole relay past _ (List.prefix_refl _))
        (pauses_events _) ((relayAfter relay past).handleAll_keeps supply.arrivals).2
  | pausing past delay outlook split =>
      refine told_of split rfl (List.append_nil _).symm ?_ rfl rfl
      rw [List.append_nil]
      exact history_prefix_whole relay past _

end Situation

/-! ## Runs -/

namespace RelayRun

variable {relay : Relay} {attempts : List Attempt}

def after (relay : Relay) (attempts : List Attempt) (n : Nat) : RelayRun :=
  advance^[n] (begin relay attempts)

theorem after_succ (n : Nat) :
    after relay attempts (n + 1) = (after relay attempts n).advance :=
  Function.iterate_succ_apply' advance n _

section

variable (running : relay.running = true)
  (ordinary : ∀ attempt ∈ attempts, attempt.Ordinary)
  (handled : ∀ attempt ∈ attempts, ∀ arrival ∈ attempt.arrivals,
    ∃ result, (relay.handleMessage arrival).result = .ok result)

include running ordinary handled

theorem after_situation (n : Nat) : Situation relay attempts (after relay attempts n) := by
  induction n with
  | zero => exact .opening ⟨attempts, none, none⟩ rfl
  | succ n ih =>
      rw [after_succ]
      rcases ih.advance running ordinary handled with ⟨same, -⟩ | ⟨next, -⟩
      · rwa [same]
      · exact next

theorem exists_waits :
    ∃ n, (after relay attempts n).advance = after relay attempts n ∧
      Situation.Waits relay attempts (after relay attempts n) := by
  -- Each outcome lowers the rank until the run waits.
  have reaches (bound : Nat) : ∀ n, (after relay attempts n).rank < bound →
      ∃ later, (after relay attempts later).advance = after relay attempts later ∧
        Situation.Waits relay attempts (after relay attempts later) := by
    induction bound with
    | zero => exact fun n low => absurd low (Nat.not_lt_zero _)
    | succ bound ih =>
        intro n low
        rcases (after_situation running ordinary handled n).advance running ordinary handled with
          waits | ⟨-, lower⟩
        · exact ⟨n, waits⟩
        · refine ih (n + 1) ?_
          rw [after_succ]
          omega
  exact reaches _ 0 (Nat.lt_succ_self _)

theorem settles :
    ∃ n, ∀ later, n ≤ later → Situation.Waits relay attempts (after relay attempts later) := by
  obtain ⟨n, fixed, waits⟩ := exists_waits running ordinary handled
  refine ⟨n, fun later h => ?_⟩
  obtain ⟨more, rfl⟩ := Nat.exists_eq_add_of_le h
  have same : after relay attempts (n + more) = after relay attempts n := by
    rw [Nat.add_comm, after, Function.iterate_add_apply]
    exact Function.iterate_fixed fixed more
  rwa [same]

end

def messages (attempts : List Attempt) : List (Value × Value) :=
  attempts.flatMap fun attempt =>
    attempt.arrivals.map fun arrival => (arrival.channel, arrival.raw)

def unknown : Arrival := ⟨.text "elsewhere", .null, .ok 0⟩

def bumpy : List Attempt :=
  [.streamed ⟨[unknown], none, none⟩, .refused (.bus (.closed none)),
    .streamed ⟨[RelayLoop.emptyObject, unknown], some .infinityToInteger, none⟩,
    .streamed ⟨[RelayLoop.emptyObject], none, none⟩]

end RelayRun

end LedgerFeed
