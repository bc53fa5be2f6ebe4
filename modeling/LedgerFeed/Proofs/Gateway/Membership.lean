import LedgerFeed.Proofs.Gateway.Sessions

namespace LedgerFeed

/-! ## How far a session has come -/

/-- How far a session has come, with how often its connection was registered and whether it is in
the set. -/
inductive SessionStage : LiveSession → Nat → Bool → Prop
  | waiting {filter : Option String} {socket : Socket} (silent : socket.actions = [])
      (untouched : socket.gateway = .connecting) :
      SessionStage ⟨filter, socket, .starting, .turn, []⟩ 0 false
  | rejecting {filter : Option String} {fault : Fault} {socket : Socket} {sent : Socket.Sent}
      (refused : Session.channels filter = .error fault)
      (acted : socket.actions = [.close Session.policyViolation] ∨
        socket.actions = [] ∧ sent ≠ .done) :
      SessionStage ⟨filter, socket, .rejecting, .action sent,
        [.asks (.close Session.policyViolation)]⟩ 0 false
  | rejected {filter : Option String} {fault : Fault} {socket : Socket} {outcome : Outcome}
      (refused : Session.channels filter = .error fault)
      (acted : socket.actions = [.close Session.policyViolation] ∨
        socket.actions = [] ∧ LiveSession.answer outcome = .raises) :
      SessionStage ⟨filter, socket, .rejecting, .over outcome,
        [.asks (.close Session.policyViolation), LiveSession.answer outcome]⟩ 0 false
  | greeting {filter : Option String} {channels : List Channel} {socket : Socket}
      (named : Session.channels filter = .ok channels) (silent : socket.actions = []) :
      SessionStage ⟨filter, socket, .accepting channels, .greeting, [.asks .accept]⟩ 0 false
  | accepting {filter : Option String} {channels : List Channel} {socket : Socket}
      {sent : Socket.Sent} (named : Session.channels filter = .ok channels)
      (acted : sent = .done → .accept ∈ socket.actions) :
      SessionStage ⟨filter, socket, .accepting channels, .action sent, [.asks .accept]⟩ 0 false
  | unaccepted {filter : Option String} {channels : List Channel} {socket : Socket}
      {outcome : Outcome} (named : Session.channels filter = .ok channels) :
      SessionStage ⟨filter, socket, .accepting channels, .over outcome, [.asks .accept, .raises]⟩
        0 false
  | receiving {filter : Option String} {channels : List Channel} {socket : Socket} (inSet : Bool)
      (named : Session.channels filter = .ok channels) (accepted : .accept ∈ socket.actions) :
      SessionStage ⟨filter, socket, .receiving, .event, [.asks .accept, .returns]⟩ 1 inSet
  | left {filter : Option String} {channels : List Channel} {socket : Socket} {outcome : Outcome}
      (named : Session.channels filter = .ok channels) (accepted : .accept ∈ socket.actions) :
      SessionStage ⟨filter, socket, .receiving, .over outcome, [.asks .accept, .returns]⟩ 1 false

namespace SessionStage

variable {session : LiveSession} {count : Nat} {inSet : Bool}

theorem socket (h : SessionStage session count inSet) {socket : Socket}
    (keeps : socket.actions = session.socket.actions ∧ socket.gateway = session.socket.gateway) :
    SessionStage { session with socket := socket } count inSet := by
  obtain ⟨actions, gateway⟩ := keeps
  cases h with
  | waiting silent untouched => exact .waiting (actions.trans silent) (gateway.trans untouched)
  | rejecting refused acted => exact .rejecting refused (actions ▸ acted)
  | rejected refused acted => exact .rejected refused (actions ▸ acted)
  | greeting named silent => exact .greeting named (actions.trans silent)
  | accepting named acted => exact .accepting named (actions ▸ acted)
  | unaccepted named => exact .unaccepted named
  | receiving inSet named accepted => exact .receiving inSet named (actions ▸ accepted)
  | left named accepted => exact .left named (actions ▸ accepted)

theorem sent (h : SessionStage session count inSet) (joined : 0 < count) {socket : Socket}
    (keeps : .accept ∈ session.socket.actions → .accept ∈ socket.actions) :
    SessionStage { session with socket := socket } count inSet := by
  cases h with
  | waiting | rejecting | rejected | greeting | accepting | unaccepted => cases joined
  | receiving inSet named accepted => exact .receiving inSet named (keeps accepted)
  | left named accepted => exact .left named (keeps accepted)

theorem joined (h : SessionStage session count true) : 0 < count := by
  cases h with
  | receiving => exact Nat.one_pos

theorem removed (h : SessionStage session count inSet) {later : Bool}
    (shrinks : later = true → inSet = true) : SessionStage session count later := by
  cases inSet with
  | false =>
      rw [Bool.eq_false_iff.mpr fun present => Bool.false_ne_true (shrinks present)]
      exact h
  | true =>
      cases h with
      | receiving _ named accepted => exact .receiving later named accepted

theorem greets (h : SessionStage session count inSet) (waits : session.wait = .greeting) :
    SessionStage (session.act .accept) count inSet := by
  cases h with
  | greeting named silent =>
      refine .accepting named fun done => ?_
      rcases Socket.perform_actions _ .accept with ⟨actions, -⟩ | ⟨-, undone⟩
      · exact actions ▸ List.mem_append_right _ List.mem_cons_self
      · exact absurd done undone
  | waiting | rejecting | rejected | accepting | unaccepted | receiving | left => cases waits

theorem turn {broadcaster after : Broadcaster} {client : ConnectionName} {outcome : Outcome}
    {point : SessionPoint} {request : SessionRequest}
    (h : SessionStage session count inSet) (present : broadcaster.isRegistered client = inSet)
    (told : session.Told outcome)
    (reacts : Session.Reacts broadcaster client session.filter session.point outcome after point
      request) :
    SessionStage ({ session.conclude outcome with point := point }.pursue request)
      (count + (after.connectedTotal - broadcaster.connectedTotal))
      (after.isRegistered client) := by
  -- The broadcaster is the same before and after, except where the session joins or leaves.
  cases h with
  | @waiting filter socket silent untouched =>
      cases reacts with
      | rejects refused =>
          have acted := socket.perform_actions (.close Session.policyViolation)
          rw [silent] at acted
          rw [present, Nat.sub_self]
          exact .rejecting refused (acted.imp_left And.left)
      | accepts named =>
          rw [present, Nat.sub_self]
          exact .greeting named silent
      | ends _ _ idle =>
          cases told
          exact absurd (idle _ rfl) nofun
  | rejecting refused acted =>
      cases reacts with
      | ends =>
          rw [present, Nat.sub_self]
          refine .rejected refused (acted.imp_right fun ⟨silent, undone⟩ => ⟨silent, ?_⟩)
          cases outcome with
          | ok reply => exact absurd (told reply rfl) undone
          | error => rfl
  | greeting named silent =>
      obtain ⟨stop, rfl⟩ := told
      cases reacts with
      | ends =>
          rw [present, Nat.sub_self]
          exact .unaccepted named
  | @accepting _ channels _ _ named acted =>
      cases reacts with
      | joins _ reply =>
          have joined : (broadcaster.register client channels).1.connectedTotal -
              broadcaster.connectedTotal = 1 := Nat.add_sub_cancel_left ..
          rw [joined, Broadcaster.register_isRegistered]
          exact .receiving _ named (acted (told reply rfl))
      | ends _ _ idle =>
          rw [present, Nat.sub_self]
          cases outcome with
          | ok reply => exact absurd (idle reply rfl) nofun
          | error => exact .unaccepted named
  | receiving inSet named accepted =>
      cases reacts with
      | listens =>
          rw [Nat.sub_self]
          exact .receiving _ named accepted
      | leaves =>
          have counted : (broadcaster.unregister client).1.connectedTotal -
              broadcaster.connectedTotal = 0 := Nat.sub_self _
          rw [counted, Broadcaster.unregister_isRegistered, decide_eq_false fun h => h rfl]
          exact .left named accepted
      | ends _ apart => exact absurd rfl apart
  | rejected | unaccepted | left => exact told.elim

theorem refused (h : SessionStage session count inSet) {fault : Fault}
    (filter : Session.channels session.filter = .error fault) :
    (session.wait = .turn ∨ session.asked = [.close Session.policyViolation]) ∧
      (session.socket.actions = [] ∨ session.socket.actions = [.close Session.policyViolation]) ∧
      (.returns ∈ session.exchanges →
        session.socket.actions = [.close Session.policyViolation]) ∧
      count = 0 ∧ inSet = false := by
  cases h with
  | waiting silent => exact ⟨.inl rfl, .inl silent, nofun, rfl, rfl⟩
  | rejecting _ acted =>
      refine ⟨.inr rfl, acted.symm.imp_left And.left, fun returned => ?_, rfl, rfl⟩
      simp at returned
  | @rejected _ _ _ outcome _ acted =>
      refine ⟨.inr ?_, acted.symm.imp_left And.left, fun returned => ?_, rfl, rfl⟩
      · cases outcome <;> rfl
      · refine acted.resolve_right fun ⟨_, raised⟩ => ?_
        simp [raised] at returned
  | greeting named | accepting named | unaccepted named | receiving _ named | left named =>
      cases named.symm.trans filter

theorem served (h : SessionStage session count inSet) {channels : List Channel}
    (filter : Session.channels session.filter = .ok channels) :
    (session.wait = .turn ∨ session.asked = [.accept]) ∧
      (.returns ∈ session.exchanges → count = 1 ∧ .accept ∈ session.socket.actions) ∧
      (.returns ∉ session.exchanges ∨ .raises ∈ session.exchanges → count = 0 ∧ inSet = false) := by
  cases h with
  | waiting => exact ⟨.inl rfl, nofun, fun _ => ⟨rfl, rfl⟩⟩
  | greeting | accepting | unaccepted =>
      exact ⟨.inr rfl, fun returned => by simp at returned, fun _ => ⟨rfl, rfl⟩⟩
  | receiving _ _ accepted | left _ accepted =>
      exact ⟨.inr rfl, fun _ => ⟨rfl, accepted⟩, fun failed => by simp at failed⟩
  | rejecting refused | rejected refused => cases refused.symm.trans filter

theorem closes {broadcaster after : Broadcaster} {client : ConnectionName} {fault : Fault}
    {point : SessionPoint} {request : SessionRequest} (h : SessionStage session count inSet)
    (waits : session.wait = .turn) (network : session.socket.failure = none)
    (filter : Session.channels session.filter = .error fault)
    (reacts : Session.Reacts broadcaster client session.filter session.point .nothing after point
      request) :
    ({ session.conclude .nothing with point := point }.pursue request).socket.actions =
      [.close Session.policyViolation] := by
  cases h with
  | @waiting _ socket silent untouched =>
      cases reacts with
      | rejects =>
          obtain ⟨client, gateway, inbox, reader, failure, stalled, actions⟩ := socket
          cases silent
          cases untouched
          cases network
          rfl
      | accepts named => cases named.symm.trans filter
      | ends _ _ idle => exact absurd (idle _ rfl) nofun
  | rejecting | rejected | greeting | accepting | unaccepted | receiving | left => cases waits

theorem joins (h : SessionStage session count inSet) {channels : List Channel} {reply : Reply}
    (accepts : session.point = .accepting channels) (told : session.Told (.ok reply)) :
    count = 0 ∧ inSet = false := by
  cases h with
  | accepting => exact ⟨rfl, rfl⟩
  | greeting =>
      obtain ⟨stop, impossible⟩ := told
      cases impossible
  | unaccepted => exact told.elim
  | waiting | rejecting | rejected | receiving | left => cases accepts

theorem absent_of_isOver (h : SessionStage session count inSet) (ended : session.isOver = true) :
    inSet = false := by
  cases h with
  | waiting | rejecting | greeting | accepting | receiving => cases ended
  | rejected | unaccepted | left => rfl

end SessionStage

/-! ## What the broadcaster does by itself -/

namespace Traffic

variable {traffic next : Traffic} {act : Act} {client : ConnectionName}

theorem Sends.engages {frame : Text} (h : traffic.Sends client frame) :
    traffic.Engages client := by
  obtain ⟨fanOut, under, -, dispatch, listed, mine, -⟩ := h
  exact .inl ⟨fanOut, under, dispatch, listed, mine⟩

theorem Closes.engages (h : traffic.Closes client) : traffic.Engages client := by
  rcases h with ⟨fanOut, under, dispatch, listed, mine, -⟩ | ⟨rest, under⟩
  · exact .inl ⟨fanOut, under, dispatch, listed, mine⟩
  · exact .inr ⟨_, under, List.mem_cons_self⟩

structure Calm (traffic next : Traffic) : Prop where
  history : ∃ new, next.history = traffic.history ++ new ∧ registrations new = []
  shrinks : ∀ client, next.broadcaster.isRegistered client = true →
    traffic.broadcaster.isRegistered client = true
  engages : ∀ client, next.Engages client →
    traffic.Engages client ∨ traffic.broadcaster.isRegistered client = true

theorem broadcast_calm (traffic : Traffic) (channel data : Value) :
    traffic.Calm (traffic.broadcast channel data) := by
  unfold Traffic.broadcast
  split
  · exact ⟨⟨[], (List.append_nil _).symm, rfl⟩, fun _ => id, fun _ => .inl⟩
  · rename_i known frame _
    refine ⟨⟨[], (List.append_nil _).symm, rfl⟩, fun _ => id, fun client engages => ?_⟩
    rcases engages with ⟨fanOut, under, dispatch, listed, mine⟩ | swept
    · rcases List.mem_append.mp under with under | under
      · exact .inl (.inl ⟨fanOut, under, dispatch, listed, mine⟩)
      · cases List.mem_singleton.mp under
        obtain ⟨target, among, rfl⟩ := List.mem_map.mp listed
        subst mine
        obtain ⟨entry, present, same⟩ := List.mem_map.mp among
        exact .inr (Broadcaster.isRegistered_iff.mpr
          (List.mem_map.mpr ⟨entry, (List.mem_filter.mp present).1, same⟩))
    · exact .inl (.inr swept)

theorem deed_calm {earlier later : List FanOut} {fanOut : FanOut} {before after : List Dispatch}
    {dispatch next : Dispatch} {broadcaster : Broadcaster} {deed : Deed}
    (under : traffic.fanOuts = earlier ++ fanOut :: later)
    (split : fanOut.dispatches = before ++ dispatch :: after)
    (step : Dispatch.Steps traffic.broadcaster dispatch deed broadcaster next) :
    traffic.Calm { traffic with
      broadcaster := broadcaster
      fanOuts := earlier ++ { fanOut with dispatches := before ++ next :: after } :: later
      history := traffic.history ++ dispatch.occurrences traffic.broadcaster next deed } := by
  obtain ⟨-, ⟨found, -, tells⟩, -, -, -⟩ := step.counts
  refine ⟨⟨_, rfl, tells.registrations⟩, fun client present => ?_, fun client engages => ?_⟩
  · cases step with
    | opened | takes | sent | closed => exact present
    | shut | raised =>
        rw [Broadcaster.drop_isRegistered, Bool.and_eq_true] at present
        exact present.2
  · rcases engages with ⟨other, listed, candidate, among, mine⟩ | swept
    · refine .inl (.inl ?_)
      rw [List.mem_append, List.mem_cons] at listed
      rcases listed with listed | rfl | listed
      · exact ⟨other, by simp [under, listed], candidate, among, mine⟩
      · refine ⟨fanOut, by simp [under], ?_⟩
        rw [List.mem_append, List.mem_cons] at among
        rcases among with among | rfl | among
        · exact ⟨candidate, by simp [split, among], mine⟩
        · exact ⟨dispatch, by simp [split], step.client ▸ mine⟩
        · exact ⟨candidate, by simp [split, among], mine⟩
      · exact ⟨other, by simp [under, listed], candidate, among, mine⟩
    · exact .inl (.inr swept)

theorem closeAll_calm (traffic : Traffic) : traffic.Calm traffic.closeAll := by
  refine ⟨⟨_, rfl, (swept traffic.broadcaster.names).1⟩, nofun, fun client engages => ?_⟩
  rcases engages with dispatched | ⟨taken, listed, among⟩
  · exact .inl (.inl dispatched)
  · rcases List.mem_append.mp listed with listed | listed
    · exact .inl (.inr ⟨taken, listed, among⟩)
    · cases List.mem_singleton.mp listed
      exact .inr (Broadcaster.isRegistered_iff.mpr among)

theorem closeEnds_calm {earlier later : List (List ConnectionName)} {rest : List ConnectionName}
    (under : traffic.sweeps = earlier ++ (client :: rest) :: later) :
    traffic.Calm { traffic with
      sweeps := earlier ++ rest :: later
      history := traffic.history ++ nextClose rest } := by
  refine ⟨⟨_, rfl, by cases rest <;> rfl⟩, fun _ => id, fun other engages => .inl ?_⟩
  rcases engages with dispatched | ⟨taken, listed, among⟩
  · exact .inl dispatched
  · rw [List.mem_append, List.mem_cons] at listed
    rcases listed with listed | rfl | listed
    · exact .inr ⟨taken, by simp [under, listed], among⟩
    · exact .inr ⟨client :: taken, by simp [under], List.mem_cons_of_mem _ among⟩
    · exact .inr ⟨taken, by simp [under, listed], among⟩

theorem Step.calm (h : Step act traffic next) (shared : act.Shared) : traffic.Calm next := by
  cases h with
  | register | unregister => exact shared.elim
  | broadcast channel data => exact broadcast_calm traffic channel data
  | deed deed under split step => exact deed_calm under split (Dispatch.step_cases step)
  | closeAll => exact closeAll_calm traffic
  | closeEnds failure caught under => exact closeEnds_calm under

end Traffic

/-! ## All sessions at every moment -/

theorem Broadcaster.count_noted (before after : Broadcaster) (client other : ConnectionName) :
    (before.noted after client).count (.registered other) =
      if other = client then after.connectedTotal - before.connectedTotal else 0 := by
  have removal : (if before.isRegistered client && !after.isRegistered client then
      [Occurrence.removed client .caller] else []).count (.registered other) = 0 := by
    split <;> simp
  rw [noted, List.count_append, removal, Nat.add_zero, List.count_replicate]
  by_cases same : other = client
  · simp [same]
  · simp [same, Ne.symm same]

namespace Session

theorem Reacts.apart {broadcaster after : Broadcaster} {client other : ConnectionName}
    {filter : Option String} {point next : SessionPoint} {outcome : Outcome}
    {request : SessionRequest}
    (h : Reacts broadcaster client filter point outcome after next request)
    (apart : other ≠ client) :
    after.isRegistered other = broadcaster.isRegistered other := by
  cases h with
  | rejects | accepts | listens | ends => rfl
  | joins => rw [Broadcaster.register_isRegistered, decide_eq_false apart, Bool.false_or]
  | leaves => rw [Broadcaster.unregister_isRegistered, decide_eq_true apart, Bool.true_and]

end Session

namespace Sessions

variable {sessions next : Sessions} {client : ConnectionName} {session : LiveSession}

def registrations (sessions : Sessions) (client : ConnectionName) : Nat :=
  sessions.traffic.history.count (.registered client)

def inSet (sessions : Sessions) (client : ConnectionName) : Bool :=
  sessions.traffic.broadcaster.isRegistered client

theorem turn_registrations (sessions : Sessions) (client : ConnectionName) (session : LiveSession)
    (outcome : Outcome) (other : ConnectionName) :
    (sessions.turn client session outcome).registrations other =
      sessions.registrations other +
        if other = client then
          (sessions.turn client session outcome).traffic.broadcaster.connectedTotal -
            sessions.traffic.broadcaster.connectedTotal
        else 0 := by
  rw [registrations, turn, List.count_append, Broadcaster.count_noted]
  rfl

theorem turn_apart (sessions : Sessions) (session : LiveSession) (outcome : Outcome)
    {other : ConnectionName} (apart : other ≠ client) :
    (sessions.turn client session outcome).inSet other = sessions.inSet other :=
  (Session.react_cases _ _ _ _ _).apart apart

theorem turn_joins (sessions : Sessions) {channels : List Channel}
    (accepts : session.point = .accepting channels) (uncounted : sessions.registrations client = 0)
    (outside : sessions.inSet client = false) (socket : Socket) (reply : Reply) :
    let next := sessions.turn client { session with socket := socket } (.ok reply)
    next.registrations client = 1 ∧ next.inSet client = true ∧
      next.traffic.broadcaster.Registered client channels := by
  intro next
  have joined : next.traffic.broadcaster =
      (sessions.traffic.broadcaster.register client channels).1 := by
    simp only [next, turn, accepts, Session.react]
  refine ⟨?_, ?_, ?_⟩
  · rw [turn_registrations, uncounted, if_pos rfl, Nat.zero_add, joined]
    exact Nat.add_sub_cancel_left ..
  · rw [inSet, joined, Broadcaster.register_isRegistered, decide_eq_true rfl, Bool.true_or]
  · rw [joined]
    exact Broadcaster.register_registered outside channels

structure Sound (sessions : Sessions) : Prop where
  stage : ∀ client session, sessions.live[client]? = some session →
    SessionStage session (sessions.registrations client) (sessions.inSet client)
  absent : ∀ client, sessions.live[client]? = none →
    sessions.registrations client = 0 ∧ sessions.inSet client = false
  engaged : ∀ client, sessions.traffic.Engages client → 0 < sessions.registrations client

theorem Sound.idle (sendTimeout : Seconds) : (idle sendTimeout).Sound := by
  refine ⟨fun client session found => ?_, fun client _ => ⟨rfl, rfl⟩, fun client engages => ?_⟩
  · cases found
  · rcases engages with ⟨fanOut, listed, -⟩ | ⟨taken, listed, -⟩ <;> cases listed

theorem Sound.joined (h : sessions.Sound) (present : sessions.inSet client = true) :
    0 < sessions.registrations client := by
  cases found : sessions.live[client]? with
  | none => exact absurd ((h.absent client found).2.symm.trans present) Bool.false_ne_true
  | some session => exact (present ▸ h.stage client session found).joined

theorem Sound.update (h : sessions.Sound) (found : sessions.live[client]? = some session)
    {later : LiveSession} (live : next.live = sessions.live.set client later)
    (stage : SessionStage later (next.registrations client) (next.inSet client))
    (grows : sessions.registrations client ≤ next.registrations client)
    (apart : ∀ other, other ≠ client → next.registrations other = sessions.registrations other ∧
      next.inSet other = sessions.inSet other)
    (engages : ∀ other, next.traffic.Engages other → sessions.traffic.Engages other) :
    next.Sound := by
  have bound : client < sessions.live.length := (List.getElem?_eq_some_iff.mp found).1
  have own : next.live[client]? = some later := by rw [live, List.getElem?_set_self bound]
  have others (other : ConnectionName) (differs : other ≠ client) :
      next.live[other]? = sessions.live[other]? := by rw [live, List.getElem?_set_ne differs.symm]
  refine ⟨fun other guest at_ => ?_, fun other at_ => ?_, fun other among => ?_⟩
  · by_cases same : other = client
    · subst same
      cases own.symm.trans at_
      exact stage
    · rw [(apart other same).1, (apart other same).2]
      exact h.stage other guest (others other same ▸ at_)
  · by_cases same : other = client
    · subst same
      cases own.symm.trans at_
    · rw [(apart other same).1, (apart other same).2]
      exact h.absent other (others other same ▸ at_)
  · have joined := h.engaged other (engages other among)
    by_cases same : other = client
    · subst same
      exact Nat.lt_of_lt_of_le joined grows
    · rwa [(apart other same).1]

theorem Sound.set (h : sessions.Sound) (found : sessions.live[client]? = some session)
    {later : LiveSession}
    (stage : SessionStage later (sessions.registrations client) (sessions.inSet client)) :
    (sessions.set client later).Sound :=
  h.update found rfl stage (Nat.le_refl _) (fun _ _ => ⟨rfl, rfl⟩) fun _ => id

theorem Sound.turn (h : sessions.Sound) (found : sessions.live[client]? = some session)
    {socket : Socket} {outcome : Outcome} (ends : session.Ends socket outcome) :
    (sessions.turn client { session with socket := socket } outcome).Sound := by
  have counted := sessions.turn_registrations client { session with socket := socket } outcome
  have stage := ((h.stage client session found).socket ends.keeps).turn rfl ends.told
    (Session.react_cases sessions.traffic.broadcaster client session.filter session.point outcome)
  refine h.update found rfl ?_ ?_ (fun other apart => ⟨?_, sessions.turn_apart _ _ apart⟩)
    fun _ => id
  · rw [counted client, if_pos rfl]
    exact stage
  · rw [counted client]
    exact Nat.le_add_right _ _
  · rw [counted other, if_neg apart, Nat.add_zero]

theorem Sound.connects (h : sessions.Sound) (filter : Option String) :
    Sound { sessions with live := sessions.live ++ [.fresh filter] } := by
  refine ⟨fun client session found => ?_, fun client found => ?_, h.engaged⟩
  · rcases Nat.lt_trichotomy client sessions.live.length with old | rfl | beyond
    · rw [List.getElem?_append_left old] at found
      exact h.stage client session found
    · obtain ⟨uncounted, outside⟩ := h.absent _ (List.getElem?_eq_none (Nat.le_refl _))
      rw [List.getElem?_concat_length] at found
      cases found
      exact uncounted ▸ outside ▸ .waiting rfl rfl
    · rw [List.getElem?_append_right (Nat.le_of_lt beyond), List.getElem?_eq_none] at found
      · cases found
      · exact Nat.le_sub_of_add_le' beyond
  · rw [List.getElem?_eq_none_iff, List.length_append] at found
    exact h.absent client (List.getElem?_eq_none (Nat.le_of_add_right_le found))

theorem Sound.traffic (h : sessions.Sound) {traffic : Traffic}
    (calm : sessions.traffic.Calm traffic) : Sound { sessions with traffic := traffic } := by
  obtain ⟨⟨new, history, quiet⟩, shrinks, engages⟩ := calm
  have counted (client : ConnectionName) :
      Sessions.registrations { sessions with traffic := traffic } client =
        sessions.registrations client := by
    rw [Sessions.registrations, history, List.count_append, ← Traffic.count_registrations new,
      quiet]
    rfl
  refine ⟨fun client session found => ?_, fun client found => ?_, fun client among => ?_⟩
  · rw [counted]
    exact (h.stage client session found).removed (shrinks client)
  · rw [counted]
    have known := h.absent client found
    refine ⟨known.1, Bool.eq_false_iff.mpr fun present => ?_⟩
    exact Bool.false_ne_true (known.2.symm.trans (shrinks client present))
  · rw [counted]
    exact (engages client among).elim (h.engaged client) h.joined

theorem Step.sound (step : Step sessions next) (h : sessions.Sound) : next.Sound := by
  cases step with
  | connects filter => exact h.connects filter
  | network events failure stalled found =>
      exact h.set found ((h.stage _ _ found).socket ⟨rfl, rfl⟩)
  | greets found waits received =>
      exact h.set found
        (((h.stage _ _ found).socket (Socket.receive_keeps received)).greets waits)
  | turn found ends => exact h.turn found ends
  | sends found sends =>
      exact h.set found
        ((h.stage _ _ found).sent (h.engaged _ sends.engages) (Socket.perform_keeps · _))
  | closes found closes =>
      exact h.set found
        ((h.stage _ _ found).sent (h.engaged _ closes.engages) (Socket.closeOnce_keeps · _))
  | traffic shared step => exact h.traffic (step.calm shared)

theorem sound {sendTimeout : Seconds}
    (run : Relation.ReflTransGen Step (Sessions.idle sendTimeout) sessions) : sessions.Sound := by
  induction run with
  | refl => exact .idle sendTimeout
  | tail _ step ih => exact step.sound ih

/-- Whatever else goes on, a session whose filter names no channels sends one close and nothing else,
and is never registered. Any other session is registered once when it has accepted its client, not
before, and never if accepting fails, and the turn that registers it puts its connection into the set.
The connection of a session that is over is not in the set, and no turn of a session puts another
connection into the set or takes it out. -/
theorem sessions_never_leak {sendTimeout : Seconds}
    (run : Relation.ReflTransGen Step (Sessions.idle sendTimeout) sessions)
    (found : sessions.live[client]? = some session) :
    (∀ fault, Session.channels session.filter = .error fault →
      (session.wait = .turn ∨ session.asked = [.close Session.policyViolation]) ∧
        (session.wait = .turn → session.socket.failure = none →
          (sessions.turn client session .nothing).live[client]?.map (·.socket.actions) =
            some [.close Session.policyViolation]) ∧
        (session.socket.actions = [] ∨
          session.socket.actions = [.close Session.policyViolation]) ∧
        (.returns ∈ session.exchanges →
          session.socket.actions = [.close Session.policyViolation]) ∧
        sessions.registrations client = 0 ∧ sessions.inSet client = false) ∧
    (∀ channels, Session.channels session.filter = .ok channels →
      (session.wait = .turn ∨ session.asked = [.accept]) ∧
        (.returns ∈ session.exchanges →
          sessions.registrations client = 1 ∧ .accept ∈ session.socket.actions) ∧
        (.returns ∉ session.exchanges ∨ .raises ∈ session.exchanges →
          sessions.registrations client = 0 ∧ sessions.inSet client = false) ∧
        ∀ socket reply, session.point = .accepting channels → session.Ends socket (.ok reply) →
          let next := sessions.turn client { session with socket := socket } (.ok reply)
          next.registrations client = 1 ∧ next.inSet client = true ∧
            next.traffic.broadcaster.Registered client channels) ∧
    (session.isOver = true → sessions.inSet client = false) ∧
    ∀ socket outcome other, other ≠ client →
      (sessions.turn client { session with socket := socket } outcome).inSet other =
        sessions.inSet other := by
  have stage := (sound run).stage client session found
  refine ⟨fun fault filter => ?_, fun channels filter => ?_, stage.absent_of_isOver,
    fun socket outcome other apart => sessions.turn_apart _ _ apart⟩
  · obtain ⟨asks, sends, returned, absent⟩ := stage.refused filter
    refine ⟨asks, fun waits network => ?_, sends, returned, absent⟩
    have bound : client < sessions.live.length := (List.getElem?_eq_some_iff.mp found).1
    rw [turn, List.getElem?_set_self bound, Option.map_some,
      stage.closes waits network filter (Session.react_cases _ _ _ _ _)]
  · obtain ⟨asks, returned, absent⟩ := stage.served filter
    refine ⟨asks, returned, absent, fun socket reply accepts ends => ?_⟩
    obtain ⟨uncounted, outside⟩ := stage.joins accepts ends.told
    exact sessions.turn_joins accepts uncounted outside socket reply

theorem turned_away_run (sendTimeout : Seconds) : ∃ sessions first second,
    Relation.ReflTransGen Step (Sessions.idle sendTimeout) sessions ∧
      sessions.live[0]? = some first ∧ sessions.live[1]? = some second ∧
      first.filter = none ∧ first.isOver = true ∧ first.exchanges = [.asks .accept, .returns] ∧
      second.filter = some "mempool" ∧ second.isOver = true ∧
      second.exchanges = [.asks (.close Session.policyViolation), .returns] := by
  have connected := ((Relation.ReflTransGen.refl (r := Step) (a := Sessions.idle sendTimeout)).tail
    (.connects none)).tail (.connects (some "mempool"))
  have turned := (connected.tail (@Step.turn _ 1 _ _ _ rfl (.turn rfl))).tail
    (@Step.turn _ 0 _ _ _ rfl (.turn rfl))
  have registered := (turned.tail (@Step.greets _ 0 _ _ _ rfl rfl rfl)).tail
    (@Step.turn _ 0 _ _ _ rfl (.action rfl rfl))
  have closed := (registered.tail (@Step.traffic _ .closeAll _ trivial .closeAll)).tail
    (@Step.closes _ 0 _ rfl (.inr ⟨[], List.mem_cons_self⟩))
  have left := (closed.tail (@Step.network _ 0 _ [.disconnect] none false rfl)).tail
    (@Step.turn _ 0 _ _ _ rfl (.event rfl rfl))
  have ended := left.tail (@Step.turn _ 1 _ _ _ rfl (.action rfl rfl))
  exact ⟨_, _, _, ended, rfl, rfl, rfl, rfl, rfl, rfl, rfl, rfl⟩

theorem sessions_never_leak_mempool : ∃ sessions first second,
    Relation.ReflTransGen Step (Sessions.idle (.whole 5)) sessions ∧
      sessions.live[0]? = some first ∧ first.filter = none ∧ first.isOver = true ∧
      (sessions.registrations 0 = 1 ∧ .accept ∈ first.socket.actions) ∧
      sessions.inSet 0 = false ∧
      sessions.live[1]? = some second ∧ second.filter = some "mempool" ∧ second.isOver = true ∧
      second.socket.actions = [.close 1008] ∧ sessions.registrations 1 = 0 ∧
      sessions.inSet 1 = false := by
  obtain ⟨sessions, first, second, run, firstFound, secondFound, open_, firstOver, accepted,
    mempool, secondOver, turnedAway⟩ := turned_away_run (.whole 5)
  obtain ⟨-, served, gone, -⟩ := sessions_never_leak run firstFound
  obtain ⟨-, joins, -⟩ := served Channel.all (by rw [open_]; rfl)
  obtain ⟨refused, -⟩ := sessions_never_leak run secondFound
  obtain ⟨-, -, -, closes, absent⟩ := refused _ (by rw [mempool]; rfl)
  exact ⟨sessions, first, second, run, firstFound, open_, firstOver, joins (by simp [accepted]),
    gone firstOver, secondFound, mempool, secondOver, closes (by simp [turnedAway]), absent⟩

end Sessions

end LedgerFeed
