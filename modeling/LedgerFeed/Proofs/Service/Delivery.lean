import LedgerFeed.Proofs.Service.Steps

/-!
# What a steady client receives

Each publication is in one place: it is in the backlog of the relay's subscription, in the relay's
hands, or behind it. `Flow` says so of a state, and that the client has the frames of what is behind
the relay and of what it has got of the broadcast under way. Every step preserves this.
-/

namespace LedgerFeed

open Relation

namespace Publisher

variable {β : Type} {operations : BusOperations β}

theorem notify_hooks {host : HookHost} {hook : Hook} (h : host.hooks = [hook])
    (outcome : Option Fault) (block records : Value) :
    (host.notify [.mk [] outcome] block records).1.hooks = [hook] := by
  have settled (host : HookHost) (fault? : Option Fault) :
      (HookHost.settleCall host hook fault?).1.hooks = host.hooks := by
    cases fault? with
    | none => rfl
    | some fault =>
        simp only [HookHost.settleCall]
        split <;> rfl
  let round := host.nextRound block records
  have kept := settled ((host.begin round).record (.called ⟨round, hook⟩)) outcome
  simp only [HookHost.notify, HookHost.perform, h, HookHost.notifyEach, HookHost.follow,
    HookHost.performAll]
  generalize HookHost.settleCall ((host.begin round).record (.called ⟨round, hook⟩)) hook outcome =
    result at kept ⊢
  obtain ⟨after, fault?⟩ := result
  cases fault? with
  | none => exact kept.trans h
  | some fault => exact kept.trans h

theorem notifyCommit_installed {host : HookHost} (h : host.hooks = [hook]) (block records : Value)
    (state : Publishing β) :
    (notifyCommit operations host block records state).1 =
        (onCommit operations block records state).2 ∧
      (notifyCommit operations host block records state).2.1.hooks = [hook] := by
  have installed : host.hooks.isEmpty = false := by rw [h]; rfl
  simp only [notifyCommit, hosted, installed, Bool.false_eq_true, ↓reduceIte, true_and]
  exact notify_hooks h _ block records

end Publisher

theorem Relay.examine_exact {relay : Relay} (relays : ∀ channel, channel ∈ relay.channels)
    {publication : Publication} (h : Exact publication) :
    ∃ body : Json, body.Faithful ∧ publication.2 = body.compact ∧
      relay.examine (.text publication.1.name) (.text publication.2) =
        .accepted publication.1 body := by
  obtain ⟨body, faithful, text, parsed⟩ := h.parsePayload publication.1.name
  have named : Relay.resolve (.text publication.1.name) = .ok (some publication.1) := by
    cases publication.1 <;> rfl
  have listed : relay.channels.contains publication.1 = true := by
    simpa using relays publication.1
  refine ⟨body, faithful, text, ?_⟩
  simp only [Relay.examine, named, listed, ↓reduceIte, parsed]

namespace Service

/-! ## The invariant -/

inductive Holding (client : ConnectionName) (channels : List Channel) :
    Option FanOut → LoopPoint → LoopRequest → List Publication → List Text → Prop
  | nothing : Holding client channels none .reading .take [] []
  | message (channel : Channel) (body : Json) (faithful : body.Faithful) :
      Holding client channels none (.relaying channel) (.broadcast channel body)
        [(channel, body.compact)] []
  | broadcast (channel : Channel) (body : Json) (fanOut : FanOut) (arrived : List Text)
      (serves : fanOut.Serves client (frames channels [(channel, body.compact)]) arrived) :
      Holding client channels (some fanOut) (.relaying channel) (.broadcast channel body)
        [(channel, body.compact)] arrived

/-- Where each publication is. -/
structure Flow (client : ConnectionName) (channels : List Channel) (serial : Nat)
    (handled held waiting : List Publication) (arrived : List Text) (service : Service) :
    Prop where
  installed : service.host.hooks = [Publisher.hook]
  subscribed : service.stream = .subscribed serial
  listening : service.bus.bus.Listening serial
  taken : service.bus.taken = handled ++ held ++ waiting
  backlog : service.bus.bus.backlog serial = waiting.map Publication.posting
  exact : ∀ publication ∈ waiting, Exact publication
  running : service.relay.running = true
  relays : ∀ channel, channel ∈ service.relay.channels
  holding : Holding client channels service.fanOut service.loop.point service.request held arrived
  registered : service.broadcaster.Registered client channels
  received : service.receivedBy client = frames channels handled ++ arrived

def Sound (client : ConnectionName) (channels : List Channel) (serial : Nat) (service : Service) :
    Prop :=
  ∃ handled held waiting arrived,
    service.Flow client channels serial handled held waiting arrived

variable {client : ConnectionName} {channels : List Channel} {serial : Nat}
  {handled held waiting : List Publication} {arrived : List Text} {service : Service}

theorem Ready.sound (h : service.Ready client channels) :
    ∃ serial, service.Sound client channels serial := by
  obtain ⟨serial, subscribed, listening, backlog⟩ := h.subscribed
  refine ⟨serial, [], [], [], [], ⟨h.installed, subscribed, listening, h.untaken, backlog, ?_,
    h.running, h.relays, ?_, h.registered, h.unserved⟩⟩
  · intro publication hp
    cases hp
  · rw [h.idle, h.reading, h.asks]
    exact .nothing

theorem frames_append (channels : List Channel) (first second : List Publication) :
    frames channels (first ++ second) = frames channels first ++ frames channels second := by
  simp [frames]

theorem frames_singleton (channels : List Channel) (publication : Publication) :
    frames channels [publication] =
      if channels.contains publication.1 then [frameText publication] else [] := by
  simp only [frames, List.filter_cons, List.filter_nil]
  split <;> rfl

theorem Holding.arrived_prefix {fanOut : Option FanOut} {point : LoopPoint} {request : LoopRequest}
    (h : Holding client channels fanOut point request held arrived) :
    arrived <+: frames channels held := by
  cases h with
  | nothing => exact List.nil_prefix
  | message => exact List.nil_prefix
  | broadcast channel body fanOut arrived serves => exact serves.arrived_prefix

theorem Sound.received_prefix (h : service.Sound client channels serial) :
    service.receivedBy client <+: frames channels service.bus.taken := by
  obtain ⟨handled, held, waiting, arrived, flow⟩ := h
  rw [flow.received, flow.taken, frames_append, frames_append, List.append_assoc]
  refine (List.prefix_append_right_inj _).mpr ?_
  exact flow.holding.arrived_prefix.trans (List.prefix_append _ _)

/-! ## Commits -/

theorem Flow.commit_bus (flow : service.Flow client channels serial handled held waiting arrived)
    (block records : Value) :
    ∃ published, published <+: idealTrace block records ∧
      (service.commit block records).bus.bus.Listening serial ∧
      (service.commit block records).bus.bus.backlog serial =
        service.bus.bus.backlog serial ++ published.map Publication.posting ∧
      (service.commit block records).bus.taken = service.bus.taken ++ published := by
  -- Recording does not change what the bus does, so the commit replays its publications on it.
  obtain ⟨did, -⟩ := @Publisher.notifyCommit_installed _ MemoryBus.operations.recording _
    flow.installed block records ⟨service.stats, service.bus, []⟩
  obtain ⟨published, bus, ideal, -⟩ := Publisher.onCommit_replays
    MemoryBus.operations_raisesOrdinary.recording block records ⟨service.stats, service.bus, []⟩
  rw [← did] at bus
  have replayed := MemoryBus.replay_backlog flow.listening published
  rw [← bus] at replayed
  exact ⟨published, ideal, replayed⟩

theorem Flow.commit (flow : service.Flow client channels serial handled held waiting arrived)
    {block : Value} (plain : block.PlainBlock) (records : Value) :
    (service.commit block records).Sound client channels serial := by
  obtain ⟨published, ideal, listening, backlog, taken⟩ := flow.commit_bus block records
  obtain ⟨-, installed⟩ := @Publisher.notifyCommit_installed _ MemoryBus.operations.recording _
    flow.installed block records ⟨service.stats, service.bus, []⟩
  refine ⟨handled, held, waiting ++ published, arrived, { flow with
    installed := installed
    listening := listening
    taken := ?_
    backlog := ?_
    exact := ?_ }⟩
  · rw [taken, flow.taken, List.append_assoc]
  · rw [backlog, flow.backlog, List.map_append]
  · intro publication hp
    rcases List.mem_append.mp hp with hp | hp
    · exact flow.exact publication hp
    · exact idealTrace_exact plain records publication (ideal.subset hp)

/-! ## Internal steps -/

theorem Flow.deliver (flow : service.Flow client channels serial handled held waiting arrived) :
    service.deliver.Flow client channels serial handled held waiting arrived := by
  obtain ⟨listening, backlog⟩ := MemoryBus.deliver_backlog flow.listening
  exact { flow with
    listening := listening
    backlog := backlog.trans flow.backlog }

theorem turn_reading (asks : service.request = .take)
    (subscribed : service.stream = .subscribed serial) : service.turn = service.read serial := by
  unfold turn
  rw [asks]
  show service.next = service.read serial
  unfold Service.next
  rw [subscribed]

theorem turn_broadcast {channel : Channel} {body : Json}
    (asks : service.request = .broadcast channel body) :
    service.turn = service.broadcast channel body := by
  unfold turn
  rw [asks]

theorem broadcast_begins (idle : service.fanOut = none) (channel : Channel) {body : Json}
    (faithful : body.Faithful) :
    service.broadcast channel body = some { service with
      broadcaster := (service.broadcaster.snapshot channel).1
      fanOut := some (.start (frameText (channel, body.compact))
        (service.broadcaster.snapshot channel).2) } := by
  unfold broadcast
  rw [idle, frame_tidy channel faithful.tidy]

theorem broadcast_goesOn {fanOut : FanOut} (under : service.fanOut = some fanOut)
    (channel : Channel) (body : Json) :
    service.broadcast channel body = if fanOut.isOver then
        some ({ service with fanOut := none }.answer (.ok (.count fanOut.delivered)))
      else
        none := by
  unfold broadcast
  rw [under]

theorem Flow.answer_message (flow : service.Flow client channels serial handled held waiting arrived)
    (reading : service.loop.point = .reading) (bus : MemoryBus) {publication : Publication}
    (h : Exact publication) :
    ∃ body : Json, body.Faithful ∧ publication.2 = body.compact ∧
      (service.withMemory bus).answer
          (.ok (.message (.text publication.1.name) (.text publication.2))) =
        { service.withMemory bus with
          loop := { service.loop with point := .relaying publication.1 }
          request := .broadcast publication.1 body } := by
  obtain ⟨body, faithful, text, examined⟩ := Relay.examine_exact flow.relays h
  refine ⟨body, faithful, text, ?_⟩
  simp only [answer, withMemory, RelayLoop.react, reading, RelayLoop.handle, flow.running,
    ↓reduceIte, examined]

theorem answer_delivered {channel : Channel} (relaying : service.loop.point = .relaying channel)
    (count : Nat) :
    { service with fanOut := none }.answer (.ok (.count count)) =
      { service with
        fanOut := none
        relay := { service.relay with relayed := service.relay.relayed + 1 }
        loop := { service.loop with point := .reading }
        request := .take } := by
  simp only [answer, RelayLoop.react, relaying, RelayLoop.relayed, Relay.settle, RelayLoop.read]

inductive Turn (channels : List Channel) (serial : Nat) (held waiting : List Publication)
    (arrived : List Text) (service : Service) : Service → Prop
  | takes (channel : Channel) (body : Json) (rest : List Publication) (bus : MemoryBus)
      (faithful : body.Faithful) (free : held = []) (unserved : arrived = [])
      (first : waiting = (channel, body.compact) :: rest) (idle : service.fanOut = none)
      (asks : service.request = .take) (listening : bus.Listening serial)
      (backlog : bus.backlog serial = rest.map Publication.posting) :
      Turn channels serial held waiting arrived service
        { service.withMemory bus with
          loop := { service.loop with point := .relaying channel }
          request := .broadcast channel body }
  | begins (channel : Channel) (body : Json) (holds : held = [(channel, body.compact)])
      (unserved : arrived = []) (idle : service.fanOut = none)
      (relaying : service.loop.point = .relaying channel)
      (asks : service.request = .broadcast channel body) :
      Turn channels serial held waiting arrived service
        { service with
          broadcaster := (service.broadcaster.snapshot channel).1
          fanOut := some (.start (frameText (channel, body.compact))
            (service.broadcaster.snapshot channel).2) }
  | ends (channel : Channel) (body : Json) (fanOut : FanOut) (served : arrived = frames channels held)
      (under : service.fanOut = some fanOut) (asks : service.request = .broadcast channel body) :
      Turn channels serial held waiting arrived service
        { service with
          fanOut := none
          relay := { service.relay with relayed := service.relay.relayed + 1 }
          loop := { service.loop with point := .reading }
          request := .take }

theorem Flow.turn_cases (flow : service.Flow client channels serial handled held waiting arrived)
    {next : Service} (turns : service.turn = some next) :
    Turn channels serial held waiting arrived service next := by
  have holding := flow.holding
  generalize hfan : service.fanOut = fanOut, hpoint : service.loop.point = point,
    hrequest : service.request = request at holding
  cases holding with
  | nothing =>
      rw [turn_reading hrequest flow.subscribed, Service.read] at turns
      generalize hreceive : service.bus.bus.receive serial = result at turns
      obtain ⟨bus, none | posting⟩ := result
      · cases turns
      · obtain ⟨listening, backlog⟩ := MemoryBus.receive_some flow.listening hreceive
        rw [flow.backlog] at backlog
        obtain ⟨publication, rest, rfl, rfl, last⟩ := List.map_eq_cons_iff.mp backlog
        obtain ⟨channel, payload⟩ := publication
        obtain ⟨body, faithful, rfl, took⟩ :=
          flow.answer_message hpoint bus (flow.exact _ List.mem_cons_self)
        have turned := (Option.some.inj turns).symm
        rw [took] at turned
        rw [turned]
        exact .takes channel body rest bus faithful rfl rfl rfl hfan hrequest listening last.symm
  | message channel body faithful =>
      rw [turn_broadcast hrequest, broadcast_begins hfan channel faithful] at turns
      cases turns
      exact .begins channel body rfl rfl hfan hpoint hrequest
  | broadcast channel body fanOut arrived serves =>
      rw [turn_broadcast hrequest, broadcast_goesOn hfan] at turns
      split at turns
      · rename_i complete
        rw [answer_delivered hpoint] at turns
        cases turns
        exact .ends channel body fanOut (serves.over complete) hfan hrequest
      · cases turns

theorem Flow.turn (flow : service.Flow client channels serial handled held waiting arrived)
    {next : Service} (turns : service.turn = some next) :
    next.Sound client channels serial := by
  -- Each turn hands the publication on: from what waits to what is in hand, and on to the client.
  cases flow.turn_cases turns with
  | takes channel body rest bus faithful free unserved first idle asks listening backlog =>
      subst free unserved first
      refine ⟨handled, [(channel, body.compact)], rest, [], { flow with
        listening := listening
        taken := ?_
        backlog := backlog
        exact := fun p hp => flow.exact p (List.mem_cons_of_mem _ hp)
        holding := ?_ }⟩
      · have taken := flow.taken
        rw [List.append_nil] at taken
        rw [List.append_assoc]
        exact taken
      · show Holding client channels service.fanOut _ _ _ _
        rw [idle]
        exact .message channel body faithful
  | begins channel body holds unserved idle relaying asks =>
      subst holds unserved
      have serves := FanOut.serves_start flow.registered channel (frameText (channel, body.compact))
      rw [← frames_singleton channels (channel, body.compact)] at serves
      refine ⟨handled, _, waiting, [], { flow with holding := ?_ }⟩
      show Holding client channels (some _) service.loop.point service.request _ _
      rw [relaying, asks]
      exact .broadcast channel body _ [] serves
  | ends channel body fanOut served under asks =>
      subst served
      refine ⟨handled ++ held, [], waiting, [], { flow with
        taken := ?_
        holding := .nothing
        received := ?_ }⟩
      · rw [List.append_nil]
        exact flow.taken
      · rw [List.append_nil, frames_append]
        exact flow.received

theorem Flow.advance (flow : service.Flow client channels serial handled held waiting arrived)
    {fanOut : FanOut} {before after : List Dispatch} {dispatch next : Dispatch}
    {broadcaster : Broadcaster} {deed : Deed}
    (under : service.fanOut = some fanOut)
    (split : fanOut.dispatches = before ++ dispatch :: after)
    (steady : dispatch.client = client → deed.Steady)
    (step : dispatch.step service.broadcaster service.sendTimeout deed =
      some (broadcaster, next)) :
    (service.advance fanOut before dispatch after broadcaster next).Sound client channels
      serial := by
  have steps := Dispatch.step_cases step
  have holding := flow.holding
  rw [under] at holding
  generalize hpoint : service.loop.point = point, hrequest : service.request = request at holding
  cases holding with
  | broadcast channel body fanOut arrived serves =>
      have later := serves.step split steady steps
      refine ⟨handled, [(channel, body.compact)], waiting, arrived ++
        ((dispatch.gained fanOut.frame next).filter fun gain => gain.1 = client).map (·.2),
        { flow with
          holding := ?_
          registered := steps.registered steady flow.registered
          received := ?_ }⟩
      · show Holding client channels (some _) service.loop.point service.request _ _
        rw [hpoint, hrequest]
        exact .broadcast channel body _ _ later
      · have before := flow.received
        simp only [receivedBy, Service.advance, List.filter_append, List.map_append] at before ⊢
        rw [before, List.append_assoc]

theorem Sound.internal (h : service.Sound client channels serial) {next : Service}
    (step : Internal client service next) : next.Sound client channels serial := by
  obtain ⟨handled, held, waiting, arrived, flow⟩ := h
  cases step with
  | deliver posted => exact ⟨handled, held, waiting, arrived, flow.deliver⟩
  | turn turns => exact flow.turn turns
  | advance deed under split steady step => exact flow.advance under split steady step

theorem Sound.internal_taken (h : service.Sound client channels serial) {next : Service}
    (step : Internal client service next) : next.bus.taken = service.bus.taken := by
  obtain ⟨handled, held, waiting, arrived, flow⟩ := h
  cases step with
  | deliver | advance => rfl
  | turn turns => cases flow.turn_cases turns <;> rfl

theorem Sound.step (h : service.Sound client channels serial) {next : Service}
    (step : Step client service next) : next.Sound client channels serial := by
  cases step with
  | internal internal => exact h.internal internal
  | commit block records plain =>
      obtain ⟨handled, held, waiting, arrived, flow⟩ := h
      exact flow.commit plain records
  | register other channels differs =>
      obtain ⟨handled, held, waiting, arrived, flow⟩ := h
      exact ⟨handled, held, waiting, arrived,
        { flow with registered := flow.registered.register differs channels }⟩
  | unregister other differs =>
      obtain ⟨handled, held, waiting, arrived, flow⟩ := h
      exact ⟨handled, held, waiting, arrived,
        { flow with registered := flow.registered.unregister differs }⟩

theorem Sound.run (h : service.Sound client channels serial) {later : Service}
    (run : ReflTransGen (Step client) service later) : later.Sound client channels serial := by
  induction run with
  | refl => exact h
  | tail _ step ih => exact ih.step step

/-! ## Quiescence -/

theorem Sound.received_quiet (h : service.Sound client channels serial)
    (quiet : service.Quiet client) :
    service.receivedBy client = frames channels service.bus.taken := by
  obtain ⟨handled, held, waiting, arrived, flow⟩ := h
  have stuck : ∀ next, service.turn ≠ some next := fun next turns => quiet next (.turn turns)
  have holding := flow.holding
  generalize hfan : service.fanOut = fanOut, hpoint : service.loop.point = point,
    hrequest : service.request = request at holding
  cases holding with
  | nothing =>
      -- The relay waits for a message, so neither its queue nor what is posted holds one.
      have put : service.bus.bus.posted = [] := by
        by_contra posted
        exact quiet _ (.deliver posted)
      have unread : (service.bus.bus.receive serial).2 = none := by
        rw [turn_reading hrequest flow.subscribed, Service.read] at stuck
        generalize service.bus.bus.receive serial = result at stuck
        obtain ⟨bus, none | channel | _⟩ := result
        · rfl
        · exact absurd rfl (stuck _)
        · exact absurd rfl (stuck _)
      have backlog := MemoryBus.backlog_nil flow.listening put unread
      rw [flow.backlog, List.map_eq_nil_iff] at backlog
      rw [flow.received, flow.taken, backlog]
      simp only [List.append_nil]
  | message channel body faithful =>
      rw [turn_broadcast hrequest, broadcast_begins hfan channel faithful] at stuck
      exact absurd rfl (stuck _)
  | broadcast channel body fanOut arrived serves =>
      cases complete : fanOut.isOver with
      | true =>
          rw [turn_broadcast hrequest, broadcast_goesOn hfan, if_pos complete] at stuck
          exact absurd rfl (stuck _)
      | false =>
          obtain ⟨before, dispatch, after, split, unfinished⟩ := FanOut.exists_unfinished complete
          obtain ⟨deed, later, next, steady, step⟩ := Dispatch.step_enabled
            service.broadcaster service.sendTimeout unfinished
          exact absurd (.advance deed hfan split (fun _ => steady) step) (quiet _)

def stage : LoopRequest → Option FanOut → Nat
  | .broadcast _ _, none => 2
  | .broadcast _ _, some _ => 1
  | _, _ => 0

def rank (service : Service) (serial : Nat) : Nat × Nat × Nat :=
  ((service.bus.bus.backlog serial).length, stage service.request service.fanOut,
    service.bus.bus.posted.length + (service.fanOut.map FanOut.rank).getD 0)

theorem Sound.internal_rank (h : service.Sound client channels serial) {next : Service}
    (step : Internal client service next) :
    Prod.Lex (· < ·) (Prod.Lex (· < ·) (· < ·)) (next.rank serial) (service.rank serial) := by
  obtain ⟨handled, held, waiting, arrived, flow⟩ := h
  simp only [Prod.lex_def, rank]
  cases step with
  | deliver posted =>
      have same := (MemoryBus.deliver_backlog flow.listening).2
      have fewer := MemoryBus.deliver_posted posted
      refine .inr ⟨congrArg List.length same, .inr ⟨rfl, ?_⟩⟩
      exact Nat.add_lt_add_right fewer _
  | turn turns =>
      cases flow.turn_cases turns with
      | takes channel body rest bus faithful free unserved first idle asks listening backlog =>
          have before := flow.backlog
          rw [first] at before
          refine .inl ?_
          show (bus.backlog serial).length < (service.bus.bus.backlog serial).length
          simp [before, backlog]
      | begins channel body holds unserved idle relaying asks =>
          refine .inr ⟨rfl, .inl ?_⟩
          simp only [asks, idle, stage]
          omega
      | ends channel body fanOut served under asks =>
          refine .inr ⟨rfl, .inl ?_⟩
          simp only [asks, under, stage]
          omega
  | advance deed under split steady step =>
      have less := FanOut.rank_step split (Dispatch.step_cases step)
      refine .inr ⟨rfl, .inr ⟨?_, ?_⟩⟩
      · simp only [advance, under]
        cases service.request <;> rfl
      · simp only [advance, under, Option.map_some, Option.getD_some]
        omega

theorem Sound.terminates {service : Service} (h : service.Sound client channels serial) :
    Acc (fun next service => Internal client service next) service :=
  .intro _ fun _ step => (h.internal step).terminates
termination_by service.rank serial
decreasing_by exact h.internal_rank step

theorem Sound.settles (h : service.Sound client channels serial) :
    ∃ rest, ReflTransGen (Internal client) service rest ∧ rest.Quiet client ∧
      rest.Sound client channels serial ∧ rest.bus.taken = service.bus.taken := by
  induction h.terminates with
  | intro service _ ih =>
      by_cases quiet : service.Quiet client
      · exact ⟨service, .refl, quiet, h, rfl⟩
      · obtain ⟨next, step⟩ : ∃ next, Internal client service next := by
          simpa [Quiet] using quiet
        obtain ⟨rest, run, ends, sound, taken⟩ := ih next step (h.internal step)
        exact ⟨rest, .head step run, ends, sound, taken.trans (h.internal_taken step)⟩

/-! ## The whole -/

/-- A client that is registered before the first commit, is open and whose sends do not fail has at
any moment a prefix of the frames of what was published on its channels. It has all of them as soon
as nothing is under way, and it comes to that if the service is left to itself. A commit publishes
its block and then its notifications, after what was published before. -/
theorem received_frames {start service : Service} (ready : start.Ready client channels)
    (run : ReflTransGen (Step client) start service) :
    service.receivedBy client <+: frames channels service.bus.taken ∧
      (service.Quiet client →
        service.receivedBy client = frames channels service.bus.taken) ∧
      (∃ rest, ReflTransGen (Internal client) service rest ∧ rest.Quiet client ∧
        rest.receivedBy client = frames channels service.bus.taken) ∧
      ∀ block records : Value, ∃ published, published <+: idealTrace block records ∧
        (service.commit block records).bus.taken = service.bus.taken ++ published := by
  obtain ⟨serial, begins⟩ := ready.sound
  have sound := begins.run run
  refine ⟨sound.received_prefix, sound.received_quiet, ?_, ?_⟩
  · obtain ⟨rest, goes, quiet, kept, taken⟩ := sound.settles
    exact ⟨rest, goes, quiet, taken ▸ kept.received_quiet quiet⟩
  · intro block records
    obtain ⟨handled, held, waiting, arrived, flow⟩ := sound
    obtain ⟨published, ideal, listening, backlog, taken⟩ := flow.commit_bus block records
    exact ⟨published, ideal, taken⟩

def begun (delay maxDelay sendTimeout : Seconds) (broadcaster : Broadcaster) : Service :=
  let relay := ((Relay.idle Channel.all delay maxDelay).start 0).1
  let service : Service :=
    { host := HookHost.empty.install Publisher.hook
      stats := .zero
      bus := ⟨.empty, [], []⟩
      relay := relay
      loop := .start relay
      request := .pause delay
      stream := .finished
      broadcaster := broadcaster
      sendTimeout := sendTimeout
      fanOut := none
      received := [] }
  service.answer .nothing

def opened (delay maxDelay sendTimeout : Seconds) (broadcaster : Broadcaster) : Service :=
  { begun delay maxDelay sendTimeout broadcaster with
    bus := ⟨(MemoryBus.empty.listen (.texts (Channel.all.map Channel.name)) true).bus, [], []⟩
    loop := ⟨delay, .reading⟩
    request := .take
    stream := .subscribed 0 }

section

variable (delay maxDelay sendTimeout : Seconds) (broadcaster : Broadcaster)

theorem begun_opens (client : ConnectionName) :
    ReflTransGen (Internal client) (begun delay maxDelay sendTimeout broadcaster)
      (opened delay maxDelay sendTimeout broadcaster) :=
  .head (.turn rfl) (.single (.turn rfl))

theorem opened_ready (registered : broadcaster.Registered client channels) :
    (opened delay maxDelay sendTimeout broadcaster).Ready client channels := by
  have wants : ∀ channel : Channel, Subscription.wants
      ⟨0, Channel.all.map fun channel => .text channel.name, true, []⟩
      (.text channel.name) = true := by
    intro channel
    cases channel <;> rfl
  have listening : (MemoryBus.empty.listen (.texts (Channel.all.map Channel.name)) true).bus.Listening
      0 := ⟨rfl, _, rfl, rfl, wants⟩
  refine ⟨rfl, ⟨0, rfl, listening, rfl⟩, rfl, rfl, ?_, rfl, rfl, rfl, registered, rfl⟩
  intro channel
  show channel ∈ Channel.all
  cases channel <;> decide

end

theorem shortCommit_plain : Value.PlainBlock ⟨Publisher.shortCommit, .object 0⟩ := by
  intro heap entries h
  have native : nativeFields ⟨Publisher.shortCommit, .object 0⟩ =
      .ok (Publisher.shortCommit, [(.text "hash", .text "0x01")]) := rfl
  rw [native] at h
  cases h
  refine ⟨⟨?_, by simp⟩, ?_⟩
  · intro entry he
    cases List.mem_singleton.mp he
    exact ⟨"hash", rfl⟩
  · intro entry he
    cases List.mem_singleton.mp he
    exact ⟨fun x reaches => (by cases reaches), fun identity entries reaches => (by cases reaches)⟩

theorem received_frames_shortCommit :
    let start := opened Relay.defaultDelay Relay.defaultMaxDelay Relay.defaultDelay
      (Broadcaster.empty.register 0 [.events]).1
    let service := start.commit ⟨Publisher.shortCommit, .object 0⟩ ⟨Publisher.shortCommit, .object 5⟩
    start.Ready 0 [.events] ∧ ReflTransGen (Step 0) start service ∧
      service.receivedBy 0 <+: frames [.events] service.bus.taken ∧
      ∃ rest, ReflTransGen (Internal 0) service rest ∧ rest.Quiet 0 ∧
        rest.receivedBy 0 = frames [.events] service.bus.taken := by
  intro start service
  have ready : start.Ready 0 [.events] := opened_ready _ _ _ _ rfl
  have run : ReflTransGen (Step 0) start service :=
    .single (.commit ⟨Publisher.shortCommit, .object 0⟩ _ shortCommit_plain)
  obtain ⟨now, -, later, -⟩ := received_frames ready run
  exact ⟨ready, run, now, later⟩

end Service

end LedgerFeed
