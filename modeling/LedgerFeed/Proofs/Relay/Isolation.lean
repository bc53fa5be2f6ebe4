import LedgerFeed.Proofs.Except
import LedgerFeed.Proofs.Json.LongNumbers
import LedgerFeed.Relay.Loop

namespace LedgerFeed

structure Arrival where
  channel : Value
  raw : Value
  answer : Except Fault Nat

namespace Arrival

structure Proper (arrival : Arrival) : Prop where
  text : ∃ s, arrival.channel.text? = some s
  ordinary : ∀ fault, arrival.answer = .error fault → fault.isOrdinary = true

def outcome (arrival : Arrival) : Outcome :=
  match arrival.answer with
  | .ok count => .ok (.count count)
  | .error fault => .error (.fault fault)

def accepted? (channels : List Channel) (arrival : Arrival) : Option (Channel × Json) :=
  match arrival.channel.parseChannel with
  | .ok resolved =>
      if channels.contains resolved then
        match parsePayload resolved.name arrival.raw with
        | .ok body => some (resolved, body)
        | .error _ => none
      else
        none
  | .error _ => none

/-- Whether a message for a relayed channel holds a whole number with too many digits. -/
def TooLong (channels : List Channel) (arrival : Arrival) : Prop :=
  ∃ resolved ∈ channels, arrival.channel.parseChannel = .ok resolved ∧
    ∃ text count, payloadText arrival.raw = .ok text ∧
      Json.read text = .error (.tooManyDigits count)

end Arrival

/-! ## One message -/

structure Handled where
  relay : Relay
  result : Except Fault Bool
  broadcasts : List (Channel × Json)

def Handled.CountedOnce (handled : Handled) (relay : Relay) : Prop :=
  handled.broadcasts.length ≤ 1 ∧
    (handled.result = .ok true ∧ handled.relay = { relay with relayed := relay.relayed + 1 } ∨
      handled.result = .ok false ∧ handled.relay = { relay with dropped := relay.dropped + 1 })

theorem Handled.CountedOnce.result {handled : Handled} {relay : Relay}
    (h : handled.CountedOnce relay) : ∃ result, handled.result = .ok result := by
  rcases h.2 with ⟨hresult, -⟩ | ⟨hresult, -⟩
  · exact ⟨true, hresult⟩
  · exact ⟨false, hresult⟩

theorem Handled.CountedOnce.kept {handled : Handled} {relay : Relay}
    (h : handled.CountedOnce relay) :
    handled.relay.channels = relay.channels ∧ handled.relay.running = relay.running ∧
      handled.relay.reconnects = relay.reconnects := by
  rcases h.2 with ⟨-, hrelay⟩ | ⟨-, hrelay⟩ <;> simp [hrelay]

namespace Relay

def handleMessage (relay : Relay) (arrival : Arrival) : Handled :=
  match relay.examine arrival.channel arrival.raw with
  | .dropped next _ => ⟨next, .ok false, []⟩
  | .accepted channel body =>
      match arrival.answer with
      | .ok _ =>
          let (next, result, _) := relay.settle channel none
          ⟨next, .ok result, [(channel, body)]⟩
      | .error fault =>
          if fault.isOrdinary then
            let (next, result, _) := relay.settle channel (some fault)
            ⟨next, .ok result, [(channel, body)]⟩
          else
            ⟨relay, .error fault, [(channel, body)]⟩
  | .failed fault => ⟨relay, .error fault, []⟩

theorem resolve_text {channel : Value} {text : Text} (h : channel.text? = some text) :
    (∃ resolved, channel.parseChannel = .ok resolved ∧ resolve channel = .ok (some resolved)) ∨
      (∃ shown, channel.parseChannel = .error (.unknownChannel shown) ∧
        resolve channel = .ok none) := by
  have hparse : channel.parseChannel = namedChannel text := by
    unfold Value.parseChannel
    rw [h]
  unfold resolve
  rw [hparse]
  unfold namedChannel
  cases Channel.parse? text with
  | none => exact .inr ⟨_, rfl, rfl⟩
  | some resolved => exact .inl ⟨resolved, rfl, rfl⟩

inductive Examination (relay : Relay) (arrival : Arrival) : Examined → Prop
  | dropped (entry : LogEntry) (silent : arrival.accepted? relay.channels = none)
      (short : ¬ arrival.TooLong relay.channels) :
      Examination relay arrival (.dropped { relay with dropped := relay.dropped + 1 } entry)
  | accepted (channel : Channel) (body : Json)
      (heard : arrival.accepted? relay.channels = some (channel, body))
      (short : ¬ arrival.TooLong relay.channels) :
      Examination relay arrival (.accepted channel body)
  | failed (count : Nat) (long : arrival.TooLong relay.channels) :
      Examination relay arrival (.failed (.longInteger count))

theorem parsePayload_cases (name : String) (raw : Value) :
    (∃ body, parsePayload name raw = .ok body ∧
        ∀ text, payloadText raw = .ok text → ∃ json, Json.read text = .ok json) ∨
      (∃ error, parsePayload name raw = .error (.payload name error) ∧
        ∀ text count, payloadText raw = .ok text → Json.read text ≠ .error (.tooManyDigits count)) ∨
      (∃ text count, parsePayload name raw = .error (.longInteger count) ∧
        payloadText raw = .ok text ∧ Json.read text = .error (.tooManyDigits count)) := by
  unfold parsePayload
  cases ht : payloadText raw with
  | error error => exact .inr (.inl ⟨error, rfl, fun _ _ h => by cases h⟩)
  | ok text =>
      simp only [readBody]
      cases hr : Json.read text with
      | ok body =>
          by_cases hb : body.isObject = true
          · exact .inl ⟨body, by simp [hb], fun _ h => by cases h; exact ⟨body, hr⟩⟩
          · refine .inr (.inl ⟨.notAnObject, by simp [hb], fun _ _ h => ?_⟩)
            cases h
            rw [hr]
            exact fun no => by cases no
      | error error =>
          cases error with
          | tooManyDigits count => exact .inr (.inr ⟨text, count, rfl, rfl, hr⟩)
          | _ =>
              refine .inr (.inl ⟨.notJson _, rfl, fun _ _ h => ?_⟩)
              cases h
              rw [hr]
              exact fun no => by cases no

theorem examine_cases (relay : Relay) {arrival : Arrival} (h : arrival.Proper) :
    Examination relay arrival (relay.examine arrival.channel arrival.raw) := by
  obtain ⟨s, hs⟩ := h.text
  unfold examine
  rcases resolve_text hs with ⟨resolved, hparse, hresolve⟩ | ⟨shown, hparse, hresolve⟩
  · rw [hresolve]
    by_cases hc : relay.channels.contains resolved = true
    · simp only [hc, ↓reduceIte]
      rcases parsePayload_cases resolved.name arrival.raw with
        ⟨body, hp, short⟩ | ⟨error, hp, short⟩ | ⟨text, count, hp, htext, hread⟩
      · rw [hp]
        refine .accepted resolved body (by simp only [Arrival.accepted?, hparse, hc, hp, ↓reduceIte]) ?_
        rintro ⟨_, _, _, text, count, htext, hread⟩
        obtain ⟨json, hok⟩ := short text htext
        rw [hok] at hread
        cases hread
      · rw [hp]
        refine .dropped _ (by simp only [Arrival.accepted?, hparse, hc, hp, ↓reduceIte]) ?_
        rintro ⟨_, _, _, text, count, htext, hread⟩
        exact short text count htext hread
      · rw [hp]
        exact .failed count ⟨resolved, by simpa using hc, hparse, text, count, htext, hread⟩
    · simp only [hc, Bool.false_eq_true, ↓reduceIte]
      refine .dropped _ (by simp only [Arrival.accepted?, hparse, hc]; rfl) ?_
      rintro ⟨other, hmem, hother, -⟩
      rw [hparse] at hother
      cases hother
      exact hc (by simpa using hmem)
  · rw [hresolve]
    refine .dropped _ (by simp only [Arrival.accepted?, hparse]) ?_
    rintro ⟨other, -, hother, -⟩
    rw [hparse] at hother
    cases hother

theorem handleMessage_cases (relay : Relay) {arrival : Arrival} (h : arrival.Proper) :
    (¬ arrival.TooLong relay.channels ∧ (relay.handleMessage arrival).CountedOnce relay ∧
        (relay.handleMessage arrival).broadcasts =
          (arrival.accepted? relay.channels).toList) ∨
      (arrival.TooLong relay.channels ∧ ∃ count,
        relay.handleMessage arrival = ⟨relay, .error (.longInteger count), []⟩) := by
  unfold handleMessage
  generalize hexamined : relay.examine arrival.channel arrival.raw = examined
  have hcases := relay.examine_cases h
  rw [hexamined] at hcases
  cases hcases with
  | dropped entry silent short =>
      exact .inl ⟨short, ⟨Nat.zero_le _, .inr ⟨rfl, rfl⟩⟩, by rw [silent]; rfl⟩
  | accepted channel body heard short =>
      rw [heard]
      cases ha : arrival.answer with
      | ok count => exact .inl ⟨short, ⟨Nat.le_refl _, .inl ⟨rfl, rfl⟩⟩, rfl⟩
      | error fault =>
          simp only [h.ordinary fault ha, ↓reduceIte]
          exact .inl ⟨short, ⟨Nat.le_refl _, .inr ⟨rfl, rfl⟩⟩, rfl⟩
  | failed count long => exact .inr ⟨long, count, rfl⟩

end Relay

/-! ## A stream -/

namespace RelayLoop

def turn (relay : Relay) (loop : RelayLoop) (arrival : Arrival) :
    Reaction × List (Channel × Json) :=
  let reaction := loop.react relay (.ok (.message arrival.channel arrival.raw))
  match reaction.request with
  | .broadcast channel body =>
      (reaction.loop.react reaction.relay arrival.outcome, [(channel, body)])
  | _ => (reaction, [])

structure Fed where
  relay : Relay
  loop : RelayLoop
  request : LoopRequest
  unread : List Arrival
  broadcasts : List (Channel × Json)

def feed (relay : Relay) (loop : RelayLoop) : List Arrival → Fed
  | [] => ⟨relay, loop, .take, [], []⟩
  | arrival :: rest =>
      let (reaction, sent) := turn relay loop arrival
      match reaction.request with
      | .take =>
          let fed := feed reaction.relay reaction.loop rest
          { fed with broadcasts := sent ++ fed.broadcasts }
      | request => ⟨reaction.relay, reaction.loop, request, rest, sent⟩

structure Complete (relay : Relay) (loop : RelayLoop) (arrivals : List Arrival) (fed : Fed) :
    Prop where
  unread : fed.unread = []
  asks : fed.request = .take
  rests : fed.loop = loop
  handled : fed.relay = arrivals.foldl (fun relay a => (relay.handleMessage a).relay) relay
  reconnects : fed.relay.reconnects = relay.reconnects
  broadcasts : fed.broadcasts = arrivals.filterMap (·.accepted? relay.channels)

theorem turn_handles {relay : Relay} {loop : RelayLoop} (hrun : relay.running = true)
    (hread : loop.point = .reading) (arrival : Arrival) :
    (turn relay loop arrival).1.relay = (relay.handleMessage arrival).relay ∧
      (turn relay loop arrival).2 = (relay.handleMessage arrival).broadcasts ∧
      match (relay.handleMessage arrival).result with
      | .ok _ => (turn relay loop arrival).1.loop = loop ∧
          (turn relay loop arrival).1.request = .take
      | .error fault =>
          (turn relay loop arrival).1.loop = { loop with point := .closing (.failed fault) } ∧
            (turn relay loop arrival).1.request = .closeStream := by
  have back : { loop with point := .reading } = loop := by rw [← hread]
  unfold turn Relay.handleMessage
  simp only [react, hread, handle, hrun, ↓reduceIte]
  cases relay.examine arrival.channel arrival.raw with
  | dropped next entry => exact ⟨rfl, rfl, back, rfl⟩
  | failed fault => exact ⟨rfl, rfl, rfl, rfl⟩
  | accepted channel body =>
      simp only [Arrival.outcome]
      cases arrival.answer with
      | ok count => exact ⟨rfl, rfl, back, rfl⟩
      | error fault =>
          by_cases ho : fault.isOrdinary = true
          · simp only [relayed, ho, ↓reduceIte, true_and]
            exact ⟨rfl, back, rfl⟩
          · simp only [relayed, ho, Bool.false_eq_true, ↓reduceIte, true_and]
            exact ⟨rfl, rfl, rfl⟩

section

variable {relay : Relay} {loop : RelayLoop} (hrun : relay.running = true)
  (hread : loop.point = .reading)

include hrun hread

theorem feed_cons_ok {arrival : Arrival} {result : Bool}
    (h : (relay.handleMessage arrival).result = .ok result) (rest : List Arrival) :
    feed relay loop (arrival :: rest) =
      let fed := feed (relay.handleMessage arrival).relay loop rest
      { fed with broadcasts := (relay.handleMessage arrival).broadcasts ++ fed.broadcasts } := by
  obtain ⟨hrelay, hsent, hnext⟩ := turn_handles hrun hread arrival
  rw [h] at hnext
  obtain ⟨hloop, hrequest⟩ := hnext
  simp only [feed, hrequest, hrelay, hloop, hsent]

theorem feed_cons_error {arrival : Arrival} {fault : Fault}
    (h : (relay.handleMessage arrival).result = .error fault) (rest : List Arrival) :
    feed relay loop (arrival :: rest) =
      ⟨(relay.handleMessage arrival).relay, { loop with point := .closing (.failed fault) },
        .closeStream, rest, (relay.handleMessage arrival).broadcasts⟩ := by
  obtain ⟨hrelay, hsent, hnext⟩ := turn_handles hrun hread arrival
  rw [h] at hnext
  obtain ⟨hloop, hrequest⟩ := hnext
  simp only [feed, hrequest, hrelay, hloop, hsent]

theorem feed_complete {arrivals : List Arrival} (h : ∀ a ∈ arrivals, a.Proper)
    (hshort : ∀ a ∈ arrivals, ¬ a.TooLong relay.channels) :
    Complete relay loop arrivals (feed relay loop arrivals) := by
  induction arrivals generalizing relay with
  | nil => exact ⟨rfl, rfl, rfl, rfl, rfl, rfl⟩
  | cons arrival rest ih =>
      rcases relay.handleMessage_cases (h arrival List.mem_cons_self) with
        ⟨-, counted, hsent⟩ | ⟨long, -⟩
      · obtain ⟨result, hresult⟩ := counted.result
        obtain ⟨hchannels, hrunning, hreconnects⟩ := counted.kept
        have later := @ih (relay.handleMessage arrival).relay
          (by rw [hrunning, hrun]) (fun a ha => h a (List.mem_cons_of_mem _ ha))
          (fun a ha => by rw [hchannels]; exact hshort a (List.mem_cons_of_mem _ ha))
        rw [feed_cons_ok hrun hread hresult]
        refine ⟨later.unread, later.asks, later.rests, later.handled, ?_, ?_⟩
        · rw [← hreconnects]
          exact later.reconnects
        · simp only [later.broadcasts, hsent, hchannels, List.filterMap_cons]
          cases arrival.accepted? relay.channels <;> rfl
      · exact absurd long (hshort arrival List.mem_cons_self)

theorem feed_cut {earlier : List Arrival} {long : Arrival} (later : List Arrival)
    (h : ∀ a ∈ earlier, a.Proper) (hl : long.Proper)
    (hshort : ∀ a ∈ earlier, ¬ a.TooLong relay.channels) (hlong : long.TooLong relay.channels) :
    let fed := feed relay loop (earlier ++ long :: later)
    fed.unread = later ∧
      fed.broadcasts = earlier.filterMap (·.accepted? relay.channels) ∧
      (∃ count, fed.loop.point = .closing (.failed (.longInteger count))) ∧
      fed.request = .closeStream ∧
      (fed.loop.react fed.relay (.ok .nothing)).relay.reconnects = relay.reconnects + 1 := by
  induction earlier generalizing relay with
  | nil =>
      rcases relay.handleMessage_cases hl with ⟨short, -⟩ | ⟨-, count, handled⟩
      · exact absurd hlong short
      · rw [List.nil_append, feed_cons_error hrun hread (by rw [handled])]
        simp [handled, react, closed, fail, Fault.isOrdinary, hrun]
  | cons arrival rest ih =>
      rcases relay.handleMessage_cases (h arrival List.mem_cons_self) with
        ⟨-, counted, hsent⟩ | ⟨long, -⟩
      · obtain ⟨result, hresult⟩ := counted.result
        obtain ⟨hchannels, hrunning, hreconnects⟩ := counted.kept
        have after := @ih (relay.handleMessage arrival).relay
          (by rw [hrunning, hrun]) (fun a ha => h a (List.mem_cons_of_mem _ ha))
          (fun a ha => by rw [hchannels]; exact hshort a (List.mem_cons_of_mem _ ha))
          (by rw [hchannels]; exact hlong)
        rw [List.cons_append, feed_cons_ok hrun hread hresult]
        obtain ⟨hunread, hbroadcasts, hpoint, hrequest, hcount⟩ := after
        refine ⟨hunread, ?_, hpoint, hrequest, by rw [← hreconnects]; exact hcount⟩
        simp only [hbroadcasts, hsent, hchannels, List.filterMap_cons]
        cases arrival.accepted? relay.channels <;> rfl
      · exact absurd long (hshort arrival List.mem_cons_self)

end

/-- A message is counted once and broadcast at most once, and a stream is handled to its end without
a failure, exactly if no number in it is too long to read. -/
theorem handling_isolated (relay : Relay) :
    (∀ arrival : Arrival, arrival.Proper →
      ((relay.handleMessage arrival).CountedOnce relay ↔ ¬ arrival.TooLong relay.channels)) ∧
    ∀ loop : RelayLoop, relay.running = true → loop.point = .reading →
      ∀ arrivals : List Arrival, (∀ a ∈ arrivals, a.Proper) →
        (Complete relay loop arrivals (feed relay loop arrivals) ↔
          ∀ a ∈ arrivals, ¬ a.TooLong relay.channels) := by
  constructor
  · intro arrival h
    rcases relay.handleMessage_cases h with ⟨short, counted, -⟩ | ⟨long, count, handled⟩
    · exact ⟨fun _ => short, fun _ => counted⟩
    · refine ⟨fun counted => ?_, fun short => absurd long short⟩
      obtain ⟨result, hresult⟩ := counted.result
      rw [handled] at hresult
      cases hresult
  · intro loop hrun hread arrivals h
    refine ⟨fun complete a ha hlong => ?_, feed_complete hrun hread h⟩
    classical
    have found : (arrivals.find? fun b => decide (b.TooLong relay.channels)).isSome = true :=
      List.find?_isSome.mpr ⟨a, ha, decide_eq_true hlong⟩
    obtain ⟨long, hfind⟩ := Option.isSome_iff_exists.mp found
    obtain ⟨hl, earlier, later, rfl, hshort⟩ := List.find?_eq_some_iff_append.mp hfind
    have cut := feed_cut hrun hread later
      (fun b hb => h b (List.mem_append_left _ hb)) (h long (by simp))
      (fun b hb => by simpa using hshort b hb) (by simpa using hl)
    have asks := complete.asks
    rw [cut.2.2.2.1] at asks
    cases asks

def longNumber : Arrival := ⟨.text "events", .text (.ofChars (List.replicate 4301 '1')), .ok 0⟩

def emptyObject : Arrival := ⟨.text "events", .text "\x7b\x7d", .ok 0⟩

def atWork : Relay :=
  { Relay.idle Channel.all Relay.defaultDelay Relay.defaultMaxDelay with running := true }

def awaiting : RelayLoop := ⟨Relay.defaultDelay, .reading⟩

theorem longNumber_proper : longNumber.Proper := ⟨⟨"events", rfl⟩, fun _ h => by cases h⟩

theorem emptyObject_proper : emptyObject.Proper := ⟨⟨"events", rfl⟩, fun _ h => by cases h⟩

theorem emptyObject_short : ¬ emptyObject.TooLong atWork.channels := by
  rintro ⟨_, -, -, text, count, htext, hread⟩
  cases htext
  have ok : Json.read (.ofString "\x7b\x7d") = .ok (.object []) := by rfl
  rw [ok] at hread
  cases hread

theorem handling_isolated_emptyObject :
    (atWork.handleMessage emptyObject).CountedOnce atWork ∧
      Complete atWork awaiting [emptyObject, emptyObject]
        (feed atWork awaiting [emptyObject, emptyObject]) :=
  ⟨((handling_isolated atWork).1 emptyObject emptyObject_proper).mpr emptyObject_short,
    ((handling_isolated atWork).2 awaiting rfl rfl [emptyObject, emptyObject]
      (by simp [emptyObject_proper])).mpr (by simp [emptyObject_short])⟩

theorem read_ones {n : Nat} (h : digitLimit < n) :
    Json.read (.ofChars (List.replicate n '1')) = .error (.tooManyDigits n) := by
  have ones : Json.Grammar.Whole (List.replicate n '1') := by
    cases n with
    | zero => exact absurd h (Nat.not_lt_zero _)
    | succ m =>
        refine .digits (by decide) ⟨List.cons_ne_nil _ _, fun c hc => ?_⟩
        rw [← List.replicate_succ] at hc
        rw [List.eq_of_mem_replicate hc]
        rfl
  have ends : Json.Grammar.EndsWhole [] := by
    intro part more split
    obtain rfl : part = [] := List.map_eq_nil_iff.mp (List.append_eq_nil_iff.mp split.symm).1
    exact ⟨fun digits => digits.1 rfl, fun _ => rfl, fun _ => rfl⟩
  rw [← List.append_nil (Text.ofChars _)]
  exact Json.read_eq_tooManyDigits.mpr
    (.mk (.whole .nil) .none ones ends List.length_replicate h)

theorem longNumber_tooLong : longNumber.TooLong atWork.channels :=
  have events : Value.parseChannel (.text "events") = .ok .events := by rfl
  ⟨.events, by decide, events, .ofChars (List.replicate 4301 '1'), 4301, rfl,
    read_ones (by decide)⟩

/-- The number is counted nowhere, it closes the stream, and what comes after it is not read. -/
theorem feed_loses :
    longNumber.Proper ∧ emptyObject.Proper ∧
      ¬ (atWork.handleMessage longNumber).CountedOnce atWork ∧
      (feed atWork awaiting [longNumber, emptyObject]).unread = [emptyObject] ∧
      (feed atWork awaiting [longNumber, emptyObject]).broadcasts = [] := by
  refine ⟨longNumber_proper, emptyObject_proper, ?_, ?_⟩
  · rcases atWork.handleMessage_cases longNumber_proper with ⟨short, -⟩ | ⟨-, count, handled⟩
    · exact absurd longNumber_tooLong short
    · intro counted
      obtain ⟨result, hresult⟩ := counted.result
      rw [handled] at hresult
      cases hresult
  · have cut := @feed_cut atWork awaiting rfl rfl [] longNumber [emptyObject]
      (fun _ h => by cases h) longNumber_proper (fun _ h => by cases h) longNumber_tooLong
    exact ⟨cut.1, cut.2.1⟩

end RelayLoop

end LedgerFeed
